/-
# FilterQuery.Proofs.Search.Session -- a translator keeps the first clause that there is

What one request does is said by two groups of lemmas.  As long as nothing is kept, a visit is
what the expression makes of it, and one that is refused changes nothing (`perform_visit_of_ok`,
`perform_visit_of_error`).  Once a clause is kept, no request changes anything (`perform_of_kept`).

So a whole run is one of refusals, up to the first expression that has a clause, and behind it one
of replies that depend on the clause alone (`run_of_kept`).
-/
import FilterQuery.Search.Session
import Mathlib.Data.List.Basic

namespace FilterQuery

namespace Translator

variable {t : Translator} {c : Clause}

/-! ## Once a clause is kept -/

/-- The reply of a translator that keeps a clause. -/
def keptReply (c : Clause) : Request → Reply
  | .visit _ => .refused .alreadyTranslated
  | .query => .found c

theorem perform_of_kept (kept : t.result = some c) (request : Request) :
    t.perform request = (keptReply c request, t) := by
  cases request with
  | visit e => simp [perform, accept, kept, keptReply]
  | query => simp [perform, query, kept, keptReply]

theorem run_of_kept (kept : t.result = some c) (requests : List Request) :
    t.run requests = (requests.map (keptReply c), t) := by
  induction requests with
  | nil => rfl
  | cons request requests ih => simp only [run, perform_of_kept kept, ih, List.map_cons]

/-! ## As long as nothing is kept -/

theorem perform_visit_of_ok {b : QueryBuilder} {e : Expression} (made : b.clauseOf e = .ok c) :
    b.translator.perform (.visit e) = (.visited, ⟨b, some c⟩) := by
  simp [perform, accept, QueryBuilder.translator, made]

theorem perform_visit_of_error {b : QueryBuilder} {e : Expression} {failure : Failure}
    (fails : b.clauseOf e = .error failure) :
    b.translator.perform (.visit e) = (.refused failure, b.translator) := by
  simp [perform, accept, QueryBuilder.translator, fails]

theorem run_cons_of_refused {b : QueryBuilder} {request : Request} {failure : Failure}
    (same : b.translator.perform request = (.refused failure, b.translator))
    (requests : List Request) :
    b.translator.run (request :: requests) =
      (.refused failure :: (b.translator.run requests).1, (b.translator.run requests).2) := by
  rw [run, same]

end Translator

namespace QueryBuilder

variable {b : QueryBuilder} {requests : List Request} {request : Request}

theorem translates_cases (b : QueryBuilder) (request : Request) :
    (∃ e c, request = .visit e ∧ b.clauseOf e = .ok c ∧ b.translates request = true) ∨
    (∃ e failure, request = .visit e ∧ b.clauseOf e = .error failure ∧
      b.translates request = false) ∨
    (request = .query ∧ b.translates request = false) := by
  cases request with
  | visit e =>
      cases made : b.clauseOf e with
      | ok c => exact .inl ⟨e, c, rfl, made, by simp [translates, made, Except.isOk, Except.toBool]⟩
      | error failure =>
          exact .inr (.inl ⟨e, failure, rfl, made, by
            simp [translates, made, Except.isOk, Except.toBool]⟩)
  | query => exact .inr (.inr ⟨rfl, rfl⟩)

theorem firstSuccess_cons_of_success (success : b.translates request = true) :
    b.firstSuccess (request :: requests) = 0 := by
  simp [firstSuccess, List.findIdx_cons, success]

theorem firstSuccess_cons_of_miss (misses : b.translates request = false) :
    b.firstSuccess (request :: requests) = b.firstSuccess requests + 1 := by
  simp [firstSuccess, List.findIdx_cons, misses]

theorem keepsFirst_nil (b : QueryBuilder) : b.KeepsFirst [] [] b.translator where
  answered := rfl
  refused i e _ absent := by simp at absent
  empty i _ absent := by simp at absent
  kept request absent := by simp at absent
  closed i e _ absent := by simp at absent
  nothing _ := rfl

/-- Behind the first success there are the replies of a translator that keeps its clause. -/
theorem keepsFirst_of_success {e : Expression} {c : Clause} (made : b.clauseOf e = .ok c)
    (success : b.translates (.visit e) = true) :
    b.KeepsFirst (.visit e :: requests) (.visited :: requests.map (Translator.keptReply c))
      ⟨b, some c⟩ := by
  have first : b.firstSuccess (.visit e :: requests) = 0 := firstSuccess_cons_of_success success
  have behind {i : Nat} {r : Request} (later : 0 < i)
      (asked : (.visit e :: requests)[i]? = some r) :
      (Reply.visited :: requests.map (Translator.keptReply c))[i]? =
        some (Translator.keptReply c r) := by
    obtain ⟨i, rfl⟩ := Nat.exists_eq_add_of_lt later
    simp only [Nat.zero_add, List.getElem?_cons_succ] at asked ⊢
    rw [List.getElem?_map, asked]
    rfl
  refine ⟨by simp, ?_, ?_, ?_, ?_, ?_⟩
  · rw [first]
    intro i e' early
    exact absurd early (Nat.not_lt_zero i)
  · rw [first]
    intro i early
    exact absurd early (Nat.not_lt_zero i)
  · rw [first]
    rintro request ⟨⟩
    refine ⟨e, c, rfl, made, ⟨⟨b, some c⟩, ?_, rfl⟩, rfl, fun i later asked => ?_, rfl⟩
    · simp [Translator.accept, translator, made]
    · exact behind later asked
  · rw [first]
    intro i e' later asked
    exact behind later asked
  · rw [first]
    intro empty
    simp at empty

/-- A request without success in front only moves the first success by one. -/
theorem KeepsFirst.cons {replies : List Reply} {last : Translator} {failure : Failure}
    (keeps : b.KeepsFirst requests replies last) (misses : b.translates request = false)
    (visit : ∀ e, request = .visit e → b.clauseOf e = .error failure)
    (query : request = .query → failure = .notTranslated) :
    b.KeepsFirst (request :: requests) (.refused failure :: replies) last := by
  have first : b.firstSuccess (request :: requests) = b.firstSuccess requests + 1 :=
    firstSuccess_cons_of_miss misses
  refine ⟨by simp [keeps.answered], ?_, ?_, ?_, ?_, ?_⟩
  · rw [first]
    rintro (_ | i) e early asked
    · exact ⟨failure, visit e (Option.some.inj asked), rfl⟩
    · exact keeps.refused i e (by omega) asked
  · rw [first]
    rintro (_ | i) early asked
    · rw [query (Option.some.inj asked)]
      rfl
    · exact keeps.empty i (by omega) asked
  · rw [first]
    intro request' asked
    obtain ⟨e, c, rfl, made, fresh, visited, found, released⟩ := keeps.kept request' asked
    refine ⟨e, c, rfl, made, fresh, visited, ?_, released⟩
    rintro (_ | i) later asked
    · exact absurd later (Nat.not_lt_zero _)
    · exact found i (by omega) asked
  · rw [first]
    rintro (_ | i) e later asked
    · exact absurd later (Nat.not_lt_zero _)
    · exact keeps.closed i e (by omega) asked
  · rw [first]
    intro all
    exact keeps.nothing (by simpa using all)

/-- A new translator keeps the clause of the first expression that has one, whatever it is asked
before and after that. -/
theorem translator_keepsFirst (b : QueryBuilder) (requests : List Request) :
    b.KeepsFirst requests (b.translator.run requests).1 (b.translator.run requests).2 := by
  induction requests with
  | nil => exact keepsFirst_nil b
  | cons request requests ih =>
      rcases translates_cases b request with ⟨e, c, rfl, made, success⟩ |
        ⟨e, failure, rfl, fails, misses⟩ | ⟨rfl, misses⟩
      · have kept : (⟨b, some c⟩ : Translator).run requests =
            (requests.map (Translator.keptReply c), ⟨b, some c⟩) :=
          Translator.run_of_kept rfl requests
        rw [Translator.run, Translator.perform_visit_of_ok made]
        simp only [kept]
        exact keepsFirst_of_success made success
      · rw [Translator.run_cons_of_refused (Translator.perform_visit_of_error fails)]
        refine ih.cons misses ?_ ?_
        · rintro e' ⟨⟩
          exact fails
        · rintro ⟨⟩
      · have same : b.translator.perform .query = (.refused .notTranslated, b.translator) := rfl
        rw [Translator.run_cons_of_refused same]
        exact ih.cons misses (by rintro e ⟨⟩) fun _ => rfl

/-- A combination of nothing is refused for what it is before the first success, and because there
is a clause already after it. -/
example :
    let b : QueryBuilder := .ofSchema ⟨[⟨"name", "doc.name", .string, true, true⟩], [], []⟩
    let short : Expression := .combination .any []
    let c : Clause := .term "doc.name" (.text "x")
    let requests : List Request :=
      [.query, .visit short, .visit (.comparison "name" .equal "x"), .visit short, .query]
    b.translator.run requests = ([.refused .notTranslated,
      .refused (.malformed ⟨0, .tooFewParts .any 0⟩), .visited, .refused .alreadyTranslated,
      .found c], ⟨b, some c⟩) :=
  rfl

end QueryBuilder

end FilterQuery
