import Governance.Policy.Basic
import Governance.Policy.Codec
import Governance.Text.Basic
import Governance.Text.Lowercase

/-!
# Listings

A listing says which policies of a tenant are wanted, in which order, and which page of them. A query
is a listing as someone asks for it; what makes no sense in it is replaced by a default, so that
every query has a listing.
-/

namespace Governance

/-- What policies can be sorted by. -/
inductive SortKey where
  | name
  | priority
  | createdAt
  | updatedAt
  deriving DecidableEq, Repr

def SortKey.word : SortKey → String
  | .name => "name"
  | .priority => "priority"
  | .createdAt => "created_at"
  | .updatedAt => "updated_at"

/-- The sort key that a word stands for; the time of creation when it stands for none. -/
def SortKey.ofWord : Option String → SortKey
  | some "name" => .name
  | some "priority" => .priority
  | some "updated_at" => .updatedAt
  | _ => .createdAt

/-- A listing as someone asks for it. -/
structure ListingQuery where
  kind : Option PolicyKind
  enabled : Option Bool
  search : Option String
  sortBy : Option String
  sortOrder : Option String
  page : Option Int
  pageSize : Option Int
  deriving DecidableEq, Repr

/-- The query that asks for nothing in particular. -/
def ListingQuery.blank : ListingQuery := ⟨none, none, none, none, none, none, none⟩

/-- Which policies are wanted, in which order, and which page of them. -/
structure Listing where
  kind : Option PolicyKind
  enabled : Option Bool
  search : Option String
  sort : SortKey
  ascending : Bool
  page : UInt32
  pageSize : UInt32
  deriving DecidableEq, Repr

/-- How many policies a page has when nobody asks for another number. -/
def defaultPageSize : UInt32 := 20

/-- The most policies that a page may have. -/
def largestPageSize : Int := 100

/-- The page asked for, or the first one. -/
def pageOf : Option Int → UInt32
  | some page => if 1 ≤ page && page < (UInt32.size : Nat) then UInt32.ofNat page.toNat else 1
  | none => 1

/-- The page size asked for, or the default one. -/
def pageSizeOf : Option Int → UInt32
  | some size =>
    if 1 ≤ size && size ≤ largestPageSize then UInt32.ofNat size.toNat else defaultPageSize
  | none => defaultPageSize

/-- The text to search for: without blanks around it, and none if nothing is left. -/
def searchOf (search : Option String) : Option String :=
  (search.map Text.trimmed).filter fun text => !text.isEmpty

/-- Whether a word asks for ascending order. -/
def isAscending (order : Option String) : Bool :=
  match order with
  | some word => word.toLower = "asc"
  | none => false

def ListingQuery.normalize (q : ListingQuery) : Listing where
  kind := q.kind
  enabled := q.enabled
  search := searchOf q.search
  sort := SortKey.ofWord q.sortBy
  ascending := isAscending q.sortOrder
  page := pageOf q.page
  pageSize := pageSizeOf q.pageSize

namespace Listing

/-- The listing that nobody asked anything of. -/
def standard : Listing := ListingQuery.blank.normalize

/-- Everything on one page. -/
def everything : Listing := { standard with pageSize := .ofNat (UInt32.size - 1) }

/-- How many policies stand on the pages before. -/
def offset (l : Listing) : UInt64 := (l.page - 1).toUInt64 * l.pageSize.toUInt64

/-- Whether a text stands in the name or the description of a policy. -/
def mentions (p : Policy) (text : String) : Bool :=
  Text.occursFolded text p.name || Text.occursFolded text p.description

/-- Whether a policy is among those wanted. -/
def accepts (l : Listing) (p : Policy) : Bool :=
  l.kind.all (p.kind = ·) && l.enabled.all (p.enabled = ·) && l.search.all (mentions p)

/-- Whether the sort key of a policy is smaller than that of another one. -/
def keyBefore (key : SortKey) (a b : Policy) : Bool :=
  match key with
  | .name => a.name < b.name
  | .priority => a.priority < b.priority
  | .createdAt => a.createdAt.lt b.createdAt
  | .updatedAt => a.updatedAt.lt b.updatedAt

/-- Whether a policy comes before another one, ascending; identifiers settle equal keys. -/
def ordered (key : SortKey) (a b : Policy) : Bool :=
  keyBefore key a b || (!keyBefore key b a && a.id.text ≤ b.id.text)

/-- Whether a policy may stand before another one in the listing. -/
def precedes (l : Listing) (a b : Policy) : Bool :=
  if l.ascending then ordered l.sort a b else ordered l.sort b a

/-- The policies wanted among those of a tenant, in their order. -/
def select (l : Listing) (policies : List Policy) : List Policy :=
  (policies.filter l.accepts).mergeSort l.precedes

end Listing

/-- A page and the number of policies on all pages together. -/
structure Page where
  items : List Policy
  total : Nat
  deriving Repr

/-- The page of a listing among the policies of a tenant. -/
def Listing.pageOf (l : Listing) (policies : List Policy) : Page :=
  let selected := l.select policies
  ⟨(selected.drop l.offset.toNat).take l.pageSize.toNat, selected.length⟩

/-!
## Listings in JSON

The written form of queries and of pages, and the readers of these forms.
-/

open Json

def ListingQuery.toJson (q : ListingQuery) : Json := ofEntries [
  entryIfSome "type" q.kind PolicyKind.toJson,
  entryIfSome "enabled" q.enabled .bool,
  entryIfSome "search" q.search .string,
  entryIfSome "sort_by" q.sortBy .string,
  entryIfSome "sort_order" q.sortOrder .string,
  entryIfSome "page" q.page ofInt,
  entryIfSome "page_size" q.pageSize ofInt]

/-- A query; everything may be left out. -/
def ListingQuery.ofJson : Decoder ListingQuery := fun j => do
  let f ← asFields ["type", "enabled", "search", "sort_by", "sort_order", "page", "page_size"] j
  let number := asInteger Int64.minValue.toInt Int64.maxValue.toInt
  return {
    kind := ← f.optional "type" PolicyKind.ofJson
    enabled := ← f.optional "enabled" asBool
    search := ← f.optional "search" asString
    sortBy := ← f.optional "sort_by" asString
    sortOrder := ← f.optional "sort_order" asString
    page := ← f.optional "page" number
    pageSize := ← f.optional "page_size" number }

/-- Which page of how many a listing shows. -/
structure Pagination where
  page : UInt32
  pageSize : UInt32
  totalItems : UInt64
  totalPages : UInt64
  deriving DecidableEq, Repr

def Page.pagination (p : Page) (l : Listing) : Pagination :=
  ⟨l.page, l.pageSize, UInt64.ofNat p.total,
    UInt64.ofNat ((p.total + l.pageSize.toNat - 1) / l.pageSize.toNat)⟩

def Pagination.toJson (p : Pagination) : Json := ofEntries [
  entry "page" (ofNat p.page.toNat),
  entry "page_size" (ofNat p.pageSize.toNat),
  entry "total_items" (ofNat p.totalItems.toNat),
  entry "total_pages" (ofNat p.totalPages.toNat)]

def Pagination.ofJson : Decoder Pagination := fun j => do
  let f ← asFields ["page", "page_size", "total_items", "total_pages"] j
  return {
    page := ← f.required "page" asUInt32
    pageSize := ← f.required "page_size" asUInt32
    totalItems := ← f.required "total_items" asUInt64
    totalPages := ← f.required "total_pages" asUInt64 }

/-- A page as it is shown: its policies and its place. -/
structure ListedPolicies where
  policies : List Policy
  pagination : Pagination
  deriving Repr

def ListedPolicies.toJson (p : ListedPolicies) : Json := ofEntries [
  entry "policies" (ofList p.policies Policy.toJson),
  entry "pagination" p.pagination.toJson]

def ListedPolicies.ofJson : Decoder ListedPolicies := fun j => do
  let f ← asFields ["policies", "pagination"] j
  return {
    policies := ← f.required "policies" (asList Policy.ofJson)
    pagination := ← f.required "pagination" Pagination.ofJson }

/-! ### Coded types -/

instance : Coded ListingQuery := ⟨ListingQuery.toJson, ListingQuery.ofJson⟩

instance : Coded Pagination := ⟨Pagination.toJson, Pagination.ofJson⟩

instance : Coded ListedPolicies := ⟨ListedPolicies.toJson, ListedPolicies.ofJson⟩

end Governance
