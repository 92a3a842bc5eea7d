/-
  SEARCH.

  An entry matches a query if the folded query occurs in its folded name, qualified name or
  signature.  The index is scanned in order and matching entries go into buckets; the scan ends when
  the buckets hold `totalLimit` entries, that is when all six are full.  A query of fewer than
  `queryLimit` characters is not evaluated.
-/
import DocIndex.Search.Buckets
import DocIndex.Text.Fold

namespace DocIndex

/-- How many characters a query needs. -/
def queryLimit : Nat := 2

/-- How many entries a search collects. -/
def totalLimit : Nat := 30

/-- Is the query long enough to be evaluated? -/
def isSearchable (query : String) : Bool := queryLimit ≤ query.length

/-- Does a folded query occur in the entry? -/
def Entry.matches (e : Entry) (query : String) : Bool :=
  Text.holds e.name query || Text.holds e.qualifiedName query ||
    e.signature.any (Text.holds · query)

/-- What a scan found, and how many entries it looked at. -/
structure Scan where
  buckets : Buckets
  scanned : Nat

/-- Scans the index from where `scan` stands. -/
def Scan.over (scan : Scan) (query : String) : List Entry → Scan
  | [] => scan
  | e :: es =>
    let buckets := if e.matches query then scan.buckets.push e else scan.buckets
    let next : Scan := ⟨buckets, scan.scanned + 1⟩
    if totalLimit ≤ buckets.total then next else next.over query es

/-- The scan that a query makes; none if it is too short. -/
def Scan.run? (index : List Entry) (query : String) : Option Scan :=
  if isSearchable query then some (Scan.over ⟨{}, 0⟩ (Text.folded query) index) else none

/-- The results of a query. -/
def search (index : List Entry) (query : String) : Buckets :=
  ((Scan.run? index query).map Scan.buckets).getD {}

end DocIndex
