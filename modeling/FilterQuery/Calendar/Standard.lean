/-
# FilterQuery.Calendar.Standard -- the timestamps of RFC 3339

The grammar of RFC 3339 as a relation between texts and what they say: clocks at some offset
from UTC that show a date and a time of day.

    year '-' month '-' day  ('T' | 't')  hour ':' minute ':' second
    [ '.' digits ]  ('Z' | 'z' | sign hour ':' minute)

A year has four digits and all other numbers have two; a fraction has as many digits as it likes,
and those behind the ninth are too small to count.  The last second of any minute may be numbered
60; whether there was a leap second is not looked at.
-/
import FilterQuery.Calendar.Timestamp

namespace FilterQuery.Calendar.Timestamp

/-- A number that is written with exactly `width` digits. -/
structure Digits (width n : Nat) (s : List Char) : Prop where
  digits : ∀ c ∈ s, c.isDigit = true
  length : s.length = width
  value : Nat.ofDigitChars 10 s 0 = n

/-- The nanoseconds of a second. -/
inductive Fraction : List Char → Nat → Prop where
  | whole : Fraction [] 0
  | parts {s : List Char} (digits : ∀ c ∈ s, c.isDigit = true) (nonempty : s ≠ []) :
      Fraction ('.' :: s)
        (Nat.ofDigitChars 10 (s.take 9) 0 * Number.tenTo (9 - (s.take 9).length))

/-- The minutes that clocks are ahead of UTC. -/
inductive Zone : List Char → Int → Prop where
  | utc {c : Char} (zulu : c = 'Z' ∨ c = 'z') : Zone [c] 0
  | ahead {hours minutes : Nat} {h m : List Char} : Digits 2 hours h → hours < 24 →
      Digits 2 minutes m → minutes < 60 → Zone ('+' :: (h ++ ':' :: m)) (60 * hours + minutes : Nat)
  | behind {hours minutes : Nat} {h m : List Char} : Digits 2 hours h → hours < 24 →
      Digits 2 minutes m → minutes < 60 →
      Zone ('-' :: (h ++ ':' :: m)) (-(60 * hours + minutes : Nat))

/-- A timestamp of RFC 3339: at the moment it means, clocks `offset` minutes ahead of UTC show
`l`. -/
inductive Rfc3339 : (s : List Char) → (l : Timestamp) → (offset : Int) → Prop where
  | text {year month day hour minute second nano : Nat} {offset : Int}
      {y mo d h mi s f z : List Char} {separator : Char} {date : Date} {clock : Clock} :
      Digits 4 year y → Digits 2 month mo → Digits 2 day d →
      Date.ofYmd? year month day = some date →
      separator = 'T' ∨ separator = 't' →
      Digits 2 hour h → Digits 2 minute mi → Digits 2 second s → Fraction f nano →
      Clock.of? hour minute second nano = some clock →
      Zone z offset →
      Rfc3339 (y ++ '-' :: (mo ++ '-' :: (d ++ separator ::
        (h ++ ':' :: (mi ++ ':' :: (s ++ (f ++ z))))))) ⟨date, clock⟩ offset

end FilterQuery.Calendar.Timestamp
