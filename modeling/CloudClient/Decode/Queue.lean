import CloudClient.Decode.Document
import CloudClient.Response
import CloudClient.Result

/-!
# Documents of the queue service

The queue service answers every operation with a document whose envelope holds the id of the
request.
-/

namespace CloudClient.QueueDocument

open Xml Document

/-- The id of the request, from the envelope or else from the headers. -/
def requestId (r : Response) (root : Option Node) : Option String :=
  let found := root.bind fun n => (grandchildren n "ResponseMetadata" "RequestId").head?.map textOf
  (nonEmpty? found).or r.requestId

/-- The root of a body that may be missing. -/
def optionalRoot (r : Response) : Except DocumentError (Option Node) :=
  if r.body.isEmpty then .ok none else (root r.body).map some

/-- The attributes among the children of an element. -/
def attributes (n : Node) : Except DocumentError (Dict String) := do
  let entries ← (n.childrenNamed "Attribute").mapM fun a => do
    return (← required a "Name", childTextD a "Value")
  return .ofList entries

/-- The locator of a new queue. -/
def createQueue (r : Response) : Except DocumentError Result := do
  let root ← root r.body
  return .createQueue (← requiredBelow root "QueueUrl") (requestId r root)

/-- The locators of queues. -/
def listQueues (r : Response) : Except DocumentError Result := do
  let root ← root r.body
  return .listQueues ((root.allNamed "QueueUrl").map textOf) (requestId r root)

/-- The end of a queue. -/
def deleteQueue (url : String) (r : Response) : Except DocumentError Result := do
  return .deleteQueue url (requestId r (← optionalRoot r))

/-- The id and the checksum of a sent message. -/
def sendMessage (r : Response) : Except DocumentError Result := do
  let root ← root r.body
  let messageId ← requiredBelow root "MessageId"
  let md5 ← requiredBelow root "MD5OfMessageBody"
  return .sendMessage messageId md5 (requestId r root)

/-- The message that an element describes. -/
def message (n : Node) : Except DocumentError Message := do
  return {
    messageId := ← required n "MessageId"
    receiptHandle := ← required n "ReceiptHandle"
    body := childTextD n "Body"
    md5OfBody := childTextD n "MD5OfBody"
    attributes := ← attributes n }

/-- The received messages. -/
def receiveMessage (r : Response) : Except DocumentError Result := do
  let root ← root r.body
  let messages ← (root.allNamed "Message").mapM message
  return .receiveMessage messages (requestId r root)

/-- The removal of a message. -/
def deleteMessage (r : Response) : Except DocumentError Result := do
  return .deleteMessage (requestId r (← optionalRoot r))

/-- The attributes of a queue. -/
def getQueueAttributes (r : Response) : Except DocumentError Result := do
  let root ← root r.body
  let holder := (root.descendant? "GetQueueAttributesResult").getD root
  return .getQueueAttributes (← attributes holder) (requestId r root)

end CloudClient.QueueDocument
