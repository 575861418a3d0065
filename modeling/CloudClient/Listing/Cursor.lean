import CloudClient.Fault
import CloudClient.Listing.Page

/-!
# Cursors over a listing

A cursor asks for one page after another. It goes on after the last item of a page as long as the
page says that more follow, and stops when a limit is reached or when no new marker can be found.
Each walk of a cursor begins at its initial state. A service that keeps sorted keys answers a
request with the next keys after the marker, and says whether more remain.
-/

namespace CloudClient

/-- What the request for a page says. -/
structure PageQuery where
  keyPrefix : String := ""
  delimiter : Option String := none
  marker : String := ""
  maxKeys : Json := .null
  deriving Inhabited

/-- Where a listing begins, and how many items it may give. -/
structure Cursor where
  initial : PageQuery := {}
  limit : Option Nat := none
  deriving Inhabited

namespace Cursor

/-- A cursor; a limit is not negative. -/
def make (initial : PageQuery) (limit : Option Int) : Except Fault Cursor :=
  match limit with
  | none => .ok { initial }
  | some n =>
    if n < 0 then .error (.invalidArgument "limit" (.int n) "must be >= 0")
    else .ok { initial, limit := some n.toNat }

/-! ## Steps of a walk -/

/-- What is said of a listing that claims to go on but gives no new marker. -/
def stallWarning (query : PageQuery) (page : Page) : String :=
  s!"Listing of {Text.quoted page.bucket} is truncated but gives no new marker " ++
    s!"after {Text.quoted query.marker}; stopping"

/-- What follows a page. -/
inductive Next where
  /-- Another request. -/
  | ask (query : PageQuery)
  /-- Nothing: the listing is complete. -/
  | complete
  /-- Nothing, although more should follow. -/
  | stalled (warning : String)
  deriving Inhabited

/-- The listing goes on after the last item of a page as long as there is a new marker. -/
def next (query : PageQuery) (page : Page) : Next :=
  if !page.isTruncated then .complete
  else
    match page.continuation with
    | none => .stalled (stallWarning query page)
    | some m =>
      if m.isEmpty || m == query.marker then .stalled (stallWarning query page)
      else .ask { query with marker := m }

/-- What remains of a limit after a page. -/
inductive Remaining where
  | unlimited
  | atMost (n : Nat)
  | nothing
  deriving DecidableEq, Inhabited

/-- What is given of a page under a limit, and what remains of the limit. The page that reaches
the limit is cut. -/
def share (limit : Option Nat) (page : Page) : Page × Remaining :=
  match limit with
  | none => (page, .unlimited)
  | some n => if n ≤ page.size then (page.trim n, .nothing) else (page, .atMost (n - page.size))

/-! ## Walks -/

/-- How a walk ended. -/
inductive Ending (ε : Type) where
  /-- The listing is complete, or the limit is reached, or the caller wants no more. -/
  | complete
  /-- The listing stalled. -/
  | stalled (warning : String)
  /-- A page could not be fetched. -/
  | failed (error : ε)
  /-- The walk was cut off after its bound of requests. -/
  | unfinished
  deriving Inhabited

variable {m : Type → Type} [Monad m] {ε : Type}

/-- Walks on with a request, for at most `fuel` requests. Every page that is given passes to
`visit`, which says whether the caller wants to go on. -/
def walkFrom (fetch : PageQuery → m (Except ε Page)) (visit : Page → m Bool) :
    Nat → PageQuery → Option Nat → m (Ending ε)
  | 0, _, _ => pure .unfinished
  | fuel + 1, query, limit => do
    match ← fetch query with
    | .error e => pure (.failed e)
    | .ok page =>
      let (given, remaining) := share limit page
      if ← visit given then
        match remaining, next query page with
        | .nothing, _ => pure .complete
        | _, .complete => pure .complete
        | _, .stalled warning => pure (.stalled warning)
        | .unlimited, .ask query => walkFrom fetch visit fuel query none
        | .atMost n, .ask query => walkFrom fetch visit fuel query (some n)
      else pure .complete

/-- Walks over all pages of a cursor; a limit of zero asks for nothing. -/
def walk (c : Cursor) (fetch : PageQuery → m (Except ε Page)) (visit : Page → m Bool)
    (fuel : Nat) : m (Ending ε) :=
  if c.limit = some 0 then pure .complete else walkFrom fetch visit fuel c.initial c.limit

/-- Passes objects to `visit` in turn, until it wants no more of them. -/
def visitEach (visit : ObjectEntry → m Bool) : List ObjectEntry → m Bool
  | [] => pure true
  | e :: rest => do if ← visit e then visitEach visit rest else pure false

/-- Walks over the objects of all pages of a cursor. -/
def walkEntries (c : Cursor) (fetch : PageQuery → m (Except ε Page))
    (visit : ObjectEntry → m Bool) (fuel : Nat) : m (Ending ε) :=
  c.walk fetch (fun p => visitEach visit p.entries) fuel

end Cursor

/-! ## Listings of sorted keys -/

namespace Listing

/-- The keys after a marker that begin with a given text. -/
def matching (keys : List String) (query : PageQuery) : List String :=
  (sortedKeys keys).filter fun k =>
    decide (query.marker < k) && query.keyPrefix.toList.isPrefixOf k.toList
where
  /-- Keys in ascending order. -/
  sortedKeys (l : List String) : List String := l.mergeSort fun a b => decide (a ≤ b)

/-- The page that answers a request: as many of the matching keys as are asked for, or a page of
the usual size; a size below zero leaves out so many of the last keys. The size of an entry is its
place on the page. -/
def answer (bucket : String) (keys : List String) (usualSize : Int) (query : PageQuery) : Page :=
  let found := matching keys query
  let given := Page.cut (query.maxKeys.integer?.getD usualSize) found
  { bucket
    isTruncated := given.length < found.length
    entries := given.zipIdx.map fun (key, i) => { key, size := i } }

end Listing

end CloudClient
