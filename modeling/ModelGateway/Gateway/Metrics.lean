/-
How many requests were answered.

Requests are counted by path, method and status.  A series is named by these three as
labels, in the text form that collectors of metrics read.
-/
import ModelGateway.Gateway.Router

namespace ModelGateway

/-- What requests are counted by. -/
structure Series where
  path : String
  method : String
  status : Nat
deriving DecidableEq, Repr

namespace Series

/-- The methods that are told apart. -/
def methods : List String :=
  ["OPTIONS", "GET", "POST", "PUT", "DELETE", "HEAD", "TRACE", "CONNECT", "PATCH"]

/-- The series that a request and its response belong to. -/
def of (r : Inbound) (response : Response) : Series where
  path := r.uri.shownPath
  method := if methods.contains r.method then r.method else ""
  status := response.status.code

/-- A text as the value of a label: quotes are escaped, and so are backslashes unless they escape
something already. -/
def labelValue : List Char → List Char
  | [] => []
  | '\\' :: '"' :: cs => '\\' :: '"' :: labelValue cs
  | '\\' :: '\\' :: cs => '\\' :: '\\' :: labelValue cs
  | '\\' :: cs => '\\' :: '\\' :: labelValue cs
  | '"' :: cs => '\\' :: '"' :: labelValue cs
  | c :: cs => c :: labelValue cs

/-- A label as text. -/
def label (name value : String) : String :=
  name ++ "=\"" ++ String.ofList (labelValue value.toList) ++ "\""

/-- A series as its labels. -/
def labels (s : Series) : String :=
  ",".intercalate
    [label "endpoint" s.path, label "method" s.method, label "status" (toString s.status)]

end Series

/-- The counts of the series that have one. -/
abbrev Counts := List (Series × Nat)

/-- Count one more request. -/
def Counts.add (s : Series) : Counts → Counts
  | [] => [(s, 1)]
  | (t, n) :: rest => if t = s then (t, n + 1) :: rest else (t, n) :: Counts.add s rest

end ModelGateway
