/-
# FilterQuery.Proofs.Reading.Runs -- runs of phrases, for any reader of phrases

`Reads stop item Phrase` says that the reader `item` belongs to the phrases of
`Phrase`: it takes nothing but phrases, and it takes each of them as a whole when
the end or a character of `stop` stands behind, but for blanks that it may leave.

A reader of phrases makes a reader of runs of them (`Reads.run`), which a
separator of its own does not stop, and which leaves nothing but what stands
behind the run (`readRun_append`).
-/
import FilterQuery.Proofs.Reading.Comparison

namespace FilterQuery.Expression

open FilterQuery.Text

/-- `item` reads the phrases of `Phrase`, and a character of `stop` may stand behind one. -/
structure Reads (stop : Char → Bool) (item : (s : List Char) → Step Expression s)
    (Phrase : List Char → Expression → Prop) : Prop where
  skips : ∀ s, outcome (item (dropBlank s)) = outcome (item s)
  pads : ∀ {before s after : List Char} {e : Expression},
    Blanks before → Phrase s e → Blanks after → Phrase (before ++ s ++ after) e
  sound : ∀ {s rest : List Char} {e : Expression}, outcome (item s) = .ok (e, rest) →
    ∃ phrase, s = phrase ++ rest ∧ Phrase phrase e
  complete : ∀ {phrase rest : List Char} {e : Expression}, Phrase phrase e → StopsAt stop rest →
    ∃ left, outcome (item (phrase ++ rest)) = .ok (e, left) ∧ dropBlank left = rest

@[simp] theorem blanks_nil : Blanks [] := by
  intro c member
  cases member

/-! ## Separated phrases -/

section Separated

variable {stop : Char → Bool} {item : (s : List Char) → Step Expression s}
  {Phrase : List Char → Expression → Prop} {separator : Char}

theorem separatedText_ne_nil {s : List Char} {es : List Expression}
    (h : SeparatedText separator Phrase s es) : es ≠ [] := by
  cases h <;> simp

theorem separatedText_pads (reads : Reads stop item Phrase) {before s after : List Char}
    {es : List Expression} (blankBefore : Blanks before) (blankAfter : Blanks after)
    (h : SeparatedText separator Phrase s es) :
    SeparatedText separator Phrase (before ++ s ++ after) es := by
  induction h generalizing before with
  | one phrase => exact .one (reads.pads blankBefore phrase blankAfter)
  | @more s t e es phrase _ ih =>
      have first := reads.pads blankBefore phrase blanks_nil
      have others := ih blanks_nil
      have : before ++ (s ++ separator :: t) ++ after =
          before ++ s ++ [] ++ separator :: ([] ++ t ++ after) := by
        simp
      rw [this]
      exact .more first others

theorem separated_dropBlank (reads : Reads stop item Phrase) (s : List Char) :
    outcome (separated separator item (dropBlank s)) = outcome (separated separator item s) := by
  rw [outcome_separated, outcome_separated, reads.skips]

theorem separated_sound (reads : Reads stop item Phrase) {s rest : List Char}
    {es : List Expression} (h : outcome (separated separator item s) = .ok (es, rest)) :
    ∃ text, s = text ++ rest ∧ SeparatedText separator Phrase text es := by
  induction size : s.length using Nat.strong_induction_on generalizing s es with
  | _ n ih =>
    rw [outcome_separated] at h
    obtain ⟨⟨e, left⟩, readFirst, h⟩ := bind_eq_ok_iff.mp h
    obtain ⟨phrase, splitFirst, isPhrase⟩ := reads.sound readFirst
    obtain ⟨after, blank, splitLeft⟩ := exists_blanks_append_dropBlank left
    have padded : Phrase (phrase ++ after) e := by
      simpa using reads.pads blanks_nil isPhrase blank
    simp only at h
    split at h
    · rename_i done
      obtain ⟨rfl, rfl⟩ := Prod.mk.inj (Except.ok.inj h)
      refine ⟨phrase ++ after, ?_, .one padded⟩
      rw [splitFirst, splitLeft, done]
      simp
    · rename_i c tail next
      split at h
      · rename_i same
        obtain ⟨⟨others, left'⟩, readOthers, h⟩ := bind_eq_ok_iff.mp h
        obtain ⟨rfl, rfl⟩ := Prod.mk.inj (Except.ok.inj h)
        obtain rfl : c = separator := by simpa using same
        have shorter : tail.length < n := by
          rw [← size, splitFirst, splitLeft, next]
          simp only [List.length_append, List.length_cons]
          omega
        obtain ⟨text, splitTail, isText⟩ := ih tail.length shorter readOthers rfl
        refine ⟨phrase ++ after ++ c :: text, ?_, .more padded isText⟩
        rw [splitFirst, splitLeft, next, splitTail]
        simp
      · obtain ⟨rfl, rfl⟩ := Prod.mk.inj (Except.ok.inj h)
        refine ⟨phrase ++ after, ?_, .one padded⟩
        rw [splitFirst, splitLeft, next]
        simp

theorem separated_append (reads : Reads stop item Phrase) (stopsItem : stop separator = true)
    {text rest : List Char} {es : List Expression} (h : SeparatedText separator Phrase text es)
    (stops : StopsAt (fun c => stop c && c != separator) rest) :
    outcome (separated separator item (text ++ rest)) = .ok (es, rest) := by
  induction h with
  | @one s e phrase =>
      have stops' : StopsAt stop rest := stops.imp fun c h => by
        simp only [Bool.and_eq_true] at h
        exact h.1
      obtain ⟨left, read, dropped⟩ := reads.complete phrase stops'
      rw [outcome_separated, read]
      simp only [bind, Except.bind, dropped]
      cases rest with
      | nil => rfl
      | cons c rest =>
          have : (c == separator) = false := by
            simp only [stopsAt_cons, Bool.and_eq_true, bne_iff_ne] at stops
            simp [stops.2]
          simp only [this]
          rfl
  | @more s t e es phrase _ ih =>
      have stops' : StopsAt stop (separator :: (t ++ rest)) := by
        simp [stopsItem]
      obtain ⟨left, read, dropped⟩ := reads.complete phrase stops'
      have whole : s ++ separator :: t ++ rest = s ++ separator :: (t ++ rest) := by simp
      rw [whole, outcome_separated, read]
      simp only [bind, Except.bind, dropped, beq_self_eq_true, if_true, ih]
      rfl

end Separated

/-! ## Runs -/

section Run

variable {stop : Char → Bool} {item : (s : List Char) → Step Expression s}
  {Phrase : List Char → Expression → Prop} {kind : Connective}

theorem runText_joined {s : List Char} {es : List Expression}
    (h : SeparatedText kind.separator Phrase s es) : RunText kind Phrase s (joined kind es) := by
  cases h with
  | one phrase => exact .single phrase
  | @more s t e es phrase tail =>
      obtain ⟨d, ds, rfl⟩ := List.exists_cons_of_ne_nil (separatedText_ne_nil tail)
      exact .several (.more phrase tail) (by simp)

theorem exists_separatedText {s : List Char} {e : Expression} (h : RunText kind Phrase s e) :
    ∃ es, SeparatedText kind.separator Phrase s es ∧ joined kind es = e := by
  cases h with
  | single phrase => exact ⟨[e], .one phrase, rfl⟩
  | @several es text atLeastTwo =>
      match es, atLeastTwo with
      | d :: d' :: ds, _ => exact ⟨d :: d' :: ds, text, rfl⟩

theorem readRun_append (reads : Reads stop item Phrase)
    (stopsItem : stop kind.separator = true) {text rest : List Char} {e : Expression}
    (h : RunText kind Phrase text e)
    (stops : StopsAt (fun c => stop c && c != kind.separator) rest) :
    outcome (readRun kind item (text ++ rest)) = .ok (e, rest) := by
  obtain ⟨es, separated, rfl⟩ := exists_separatedText h
  rw [outcome_readRun, separated_append reads stopsItem separated stops]
  rfl

/-- A reader of phrases makes a reader of runs. -/
theorem Reads.run (reads : Reads stop item Phrase)
    (delimits : ∀ c, stop c = true → isDelimiter c = true)
    (stopsItem : stop kind.separator = true) :
    Reads (fun c => stop c && c != kind.separator) (readRun kind item) (RunText kind Phrase) where
  skips s := by
    rw [outcome_readRun, outcome_readRun, separated_dropBlank reads]
  pads blankBefore h blankAfter := by
    cases h with
    | single phrase => exact .single (reads.pads blankBefore phrase blankAfter)
    | several text atLeastTwo =>
        exact .several (separatedText_pads reads blankBefore blankAfter text) atLeastTwo
  sound h := by
    rw [outcome_readRun] at h
    obtain ⟨⟨es, left⟩, readAll, h⟩ := bind_eq_ok_iff.mp h
    obtain ⟨rfl, rfl⟩ := Prod.mk.inj (Except.ok.inj h)
    obtain ⟨text, split, isText⟩ := separated_sound reads readAll
    exact ⟨text, split, runText_joined isText⟩
  complete {phrase rest e} h stops := by
    refine ⟨rest, readRun_append reads stopsItem h stops, dropBlank_of_delimiter ?_⟩
    exact stops.imp fun c h => by
      simp only [Bool.and_eq_true] at h
      exact delimits c h.1

end Run

end FilterQuery.Expression
