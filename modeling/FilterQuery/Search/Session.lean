/-
# FilterQuery.Search.Session -- what a translator answers, request by request

A translator is asked for one thing after another: to visit an expression, or for the clause that
it keeps.  `perform` gives the reply to one request and the translator as it is afterwards; where
the request is refused that is the translator as it was.  `run` goes through a list of requests,
and `release` gives the translator up for its clause.

`KeepsFirst` says what the replies of a new translator have to be.  All depends on the place of
the first expression that has a clause (`QueryBuilder.firstSuccess`).
-/
import FilterQuery.Search.Translator

namespace FilterQuery

/-- What a translator is asked. -/
inductive Request where
  | visit (e : Expression)
  | query

/-- What it replies. -/
inductive Reply where
  | visited
  | found (clause : Clause)
  | refused (failure : Failure)

namespace Translator

/-- The reply to a request, and the translator afterwards. -/
def perform (t : Translator) : Request → Reply × Translator
  | .visit e =>
    match t.accept e with
    | .ok t => (.visited, t)
    | .error failure => (.refused failure, t)
  | .query =>
    match t.query with
    | .ok clause => (.found clause, t)
    | .error failure => (.refused failure, t)

/-- The replies to requests in their order, and the translator after the last. -/
def run (t : Translator) : List Request → List Reply × Translator
  | [] => ([], t)
  | request :: requests =>
    let (reply, t) := t.perform request
    let (replies, t) := t.run requests
    (reply :: replies, t)

/-- The clause that is kept, for which the translator is given up. -/
def release (t : Translator) : Except Failure Clause :=
  t.query

end Translator

namespace QueryBuilder

/-- A request to visit an expression that has a clause. -/
def translates (b : QueryBuilder) : Request → Bool
  | .visit e => (b.clauseOf e).isOk
  | .query => false

/-- The place of the first request to visit an expression that has a clause; the number of the
requests if there is none. -/
def firstSuccess (b : QueryBuilder) (requests : List Request) : Nat :=
  requests.findIdx b.translates

/-- The replies of a translator that keeps the first clause there is, and its last state. -/
structure KeepsFirst (b : QueryBuilder) (requests : List Request) (replies : List Reply)
    (last : Translator) : Prop where
  answered : replies.length = requests.length
  /-- Up to the first success each expression is refused for its own fault. -/
  refused : ∀ i e, i < b.firstSuccess requests → requests[i]? = some (.visit e) →
    ∃ failure, b.clauseOf e = .error failure ∧ replies[i]? = some (.refused failure)
  /-- And there is no clause to be had. -/
  empty : ∀ i, i < b.firstSuccess requests → requests[i]? = some .query →
    replies[i]? = some (.refused .notTranslated)
  /-- The first success is one, and its clause, which is the one that the expression has by itself,
  is there ever after. -/
  kept : ∀ request, requests[b.firstSuccess requests]? = some request →
    ∃ e c, request = .visit e ∧ b.clauseOf e = .ok c ∧
      (∃ fresh, b.translator.accept e = .ok fresh ∧ fresh.query = .ok c) ∧
      replies[b.firstSuccess requests]? = some .visited ∧
      (∀ i, b.firstSuccess requests < i → requests[i]? = some .query →
        replies[i]? = some (.found c)) ∧
      last.release = .ok c
  /-- No other expression is taken, whatever it is. -/
  closed : ∀ i e, b.firstSuccess requests < i → requests[i]? = some (.visit e) →
    replies[i]? = some (.refused .alreadyTranslated)
  /-- Without a success there is no clause in the end. -/
  nothing : b.firstSuccess requests = requests.length → last.release = .error .notTranslated

end QueryBuilder

end FilterQuery
