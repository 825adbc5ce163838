import Courier.Proofs.Instant
import Courier.Proofs.Instant.Calendar
import Courier.Proofs.Text.Numeral
import Courier.Proofs.Text.Span

/-!
# Courier — Proofs — Instants read back from their text

The text of an instant is a row of numerals between marks.  A numeral is read up to its width or,
after the sign of a year, up to the next mark (`Instant.number?_append`); from there the rest is
read.  So the text is read as the parts that it was written from (`Instant.ofRfc3339?_written`),
and those are the parts of the instant (`CivilDate.toDays_ofDays`).

A leap second is shown as second 60 if it follows second 59.  After any other second it is shown as
the next second, and read as that one.  An instant is read back exactly if it is in no such leap
second (`Instant.ofRfc3339?_toRfc3339_iff`).
-/

namespace Courier.Instant

/-! ### Numerals of a width -/

theorem toList_padded (width n : Nat) :
    (padded width n).toList =
      List.replicate (width - (Nat.toDigits 10 n).length) '0' ++ Nat.toDigits 10 n :=
  String.toList_ofList

theorem isDigit_of_mem_padded {width n : Nat} {c : Char} (h : c ∈ (padded width n).toList) :
    c.isDigit := by
  rw [toList_padded] at h
  rcases List.mem_append.mp h with zero | digit
  · rw [List.eq_of_mem_replicate zero]
    rfl
  · exact Text.isDigit_of_mem_toDigits digit

theorem length_padded {width n : Nat} (pos : 0 < width) (h : n < 10 ^ width) :
    (padded width n).toList.length = width := by
  have fits := (Nat.length_toDigits_le_iff (b := 10) (by decide) pos).mpr h
  rw [toList_padded, List.length_append, List.length_replicate]
  omega

theorem natural?_padded (width n : Nat) : Text.natural? 10 (padded width n).toList = some n := by
  have zeros (k : Nat) (cs : List Char) :
      Text.digitsFrom 10 0 (List.replicate k '0' ++ cs) = Text.digitsFrom 10 0 cs := by
    induction k with
    | zero => rfl
    | succ k ih => exact ih
  have digits : (padded width n).toList ≠ [] := by
    rw [toList_padded]
    exact List.append_ne_nil_of_right_ne_nil _ Nat.toDigits_ne_nil
  rw [Text.natural?_of_ne_nil digits, toList_padded, zeros,
    Text.digitsFrom_toDigits (by decide) (by decide)]

/-- A numeral starts with a digit. -/
theorem exists_padded_eq_cons (width n : Nat) :
    ∃ c cs, (padded width n).toList = c :: cs ∧ c.isDigit := by
  have digits {c : Char} (h : c ∈ (padded width n).toList) := isDigit_of_mem_padded h
  have number := natural?_padded width n
  cases h : (padded width n).toList with
  | nil => rw [h] at number; cases number
  | cons c cs => exact ⟨c, cs, rfl, digits (h ▸ List.mem_cons_self ..)⟩

/-! ### White space -/

theorem trimStartChars_cons {c : Char} {cs : List Char} (h : Text.isBlank c = false) :
    Text.trimStartChars (c :: cs) = c :: cs := by
  rw [Text.trimStartChars, List.dropWhile_cons, h]
  rfl

theorem isBlank_of_isDigit {c : Char} (h : c.isDigit) : Text.isBlank c = false := by
  simp only [Char.isDigit, Bool.and_eq_true, decide_eq_true_eq, UInt32.le_iff_toNat_le,
    ge_iff_le] at h
  have range : 48 ≤ c.toNat ∧ c.toNat ≤ 57 := h
  simp only [Text.isBlank, Bool.or_eq_false_iff, Bool.and_eq_false_iff, decide_eq_false_iff_not,
    beq_eq_false_iff_ne]
  omega

theorem trimStartChars_padded (width n : Nat) (rest : List Char) :
    Text.trimStartChars ((padded width n).toList ++ rest) = (padded width n).toList ++ rest := by
  obtain ⟨c, cs, start, digit⟩ := exists_padded_eq_cons width n
  rw [start]
  exact trimStartChars_cons (isBlank_of_isDigit digit)

/-! ### Parts -/

/-- Digits are read up to the width of the numeral or the next character that is none. -/
theorem number?_append {width : Nat} {digits rest : List Char} (h : ∀ c ∈ digits, c.isDigit)
    (stop : digits.length = width ∨
      digits.length ≤ width ∧ ∀ c ∈ rest.head?, c.isDigit = false) :
    number? width (digits ++ rest) = (Text.natural? 10 digits).map (·, rest) := by
  have short : digits.length ≤ width := stop.elim Nat.le_of_eq And.left
  have stopped : ∀ c ∈ (rest.take (width - digits.length)).head?, c.isDigit = false := by
    rw [List.head?_take]
    intro c hc
    split_ifs at hc with full
    · cases hc
    · rcases stop with whole | ⟨-, other⟩
      · omega
      · exact other c hc
  rw [number?, List.take_append, List.take_of_length_le short,
    Text.takeWhile_append_of_all h stopped, List.drop_left]

theorem number?_padded {width n : Nat} (pos : 0 < width) (h : n < 10 ^ width) (rest : List Char) :
    number? width ((padded width n).toList ++ rest) = some (n, rest) := by
  rw [number?_append (fun _ => isDigit_of_mem_padded) (.inl (length_padded pos h)), natural?_padded,
    Option.map_some]

theorem field?_padded {n : Nat} (h : n < 100) (rest : List Char) :
    field? ((padded 2 n).toList ++ rest) = some (n, rest) := by
  rw [field?, trimStartChars_padded, number?_padded (by decide) h]

theorem mark?_cons {c : Char} (h : Text.isBlank c = false) (rest : List Char) :
    mark? c (c :: rest) = some rest := by
  rw [mark?, trimStartChars_cons h]
  exact if_pos rfl

/-- A year without a sign. -/
theorem year?_padded (n : Nat) (rest : List Char) :
    year? ((padded 4 n).toList ++ rest) =
      (number? 4 ((padded 4 n).toList ++ rest)).map fun (n, rest) => ((n : Int), rest) := by
  obtain ⟨c, cs, start, digit⟩ := exists_padded_eq_cons 4 n
  rw [year?, trimStartChars_padded, start, List.cons_append]
  split
  · next minus => cases (List.cons.inj minus).1; cases digit
  · next plus => cases (List.cons.inj plus).1; cases digit
  · rfl

/-- The number of a year with a sign ends at the mark. -/
theorem number?_signed (n : Nat) (rest : List Char) :
    number? ((padded 4 n).toList ++ '-' :: rest).length ((padded 4 n).toList ++ '-' :: rest) =
      some (n, '-' :: rest) := by
  have stop : ∀ c ∈ ('-' :: rest).head?, c.isDigit = false := by
    rintro c ⟨⟩
    rfl
  rw [number?_append (fun _ => isDigit_of_mem_padded) (.inr ⟨by simp, stop⟩), natural?_padded,
    Option.map_some]

theorem year?_yearText (year : Int) (rest : List Char) :
    year? ((yearText year).toList ++ '-' :: rest) = some (year, '-' :: rest) := by
  unfold yearText
  split_ifs with four negative
  · have whole : ((year.toNat : Nat) : Int) = year := by omega
    rw [year?_padded, number?_padded (by decide) (by omega)]
    simp only [Option.map_some, whole]
  · have whole : -((year.natAbs : Nat) : Int) = year := by omega
    have minus : ("-" ++ padded 4 year.natAbs).toList = '-' :: (padded 4 year.natAbs).toList :=
      String.toList_append
    rw [minus, List.cons_append, year?, trimStartChars_cons rfl]
    simp only [number?_signed, Option.map_some, whole]
  · have whole : ((year.toNat : Nat) : Int) = year := by omega
    have plus : ("+" ++ padded 4 year.toNat).toList = '+' :: (padded 4 year.toNat).toList :=
      String.toList_append
    rw [plus, List.cons_append, year?, trimStartChars_cons rfl]
    simp only [number?_signed, Option.map_some, whole]

/-- A fraction up to the mark of universal time. -/
theorem fraction?_padded {width n : Nat} (pos : 0 < width) (few : width ≤ 9) (h : n < 10 ^ width)
    (rest : List Char) :
    fraction? ('.' :: ((padded width n).toList ++ 'Z' :: rest)) =
      some (n * 10 ^ (9 - width), 'Z' :: rest) := by
  have size := length_padded pos h
  have stop : ∀ c ∈ ('Z' :: rest).head?, c.isDigit = false := by
    rintro c ⟨⟩
    rfl
  have digits : ((padded width n).toList ++ 'Z' :: rest).takeWhile Char.isDigit =
      (padded width n).toList :=
    Text.takeWhile_append_of_all (fun _ => isDigit_of_mem_padded) stop
  simp only [fraction?, digits, List.take_of_length_le (size.trans_le few), natural?_padded,
    Option.map_some, size, List.drop_left' size]
  rfl

theorem fraction?_fractionText {nanos : Nat} (h : nanos < 1000000000) (rest : List Char) :
    fraction? ((fractionText nanos).toList ++ 'Z' :: rest) = some (nanos, 'Z' :: rest) := by
  have point (s : String) : ("." ++ s).toList = '.' :: s.toList := String.toList_append
  unfold fractionText
  split_ifs with none milli micro
  · rw [none]
    rfl
  · have whole : nanos / 1000000 * 10 ^ (9 - 3) = nanos := by omega
    rw [point, List.cons_append, fraction?_padded (by decide) (by decide) (by omega), whole]
  · have whole : nanos / 1000 * 10 ^ (9 - 6) = nanos := by omega
    rw [point, List.cons_append, fraction?_padded (by decide) (by decide) (by omega), whole]
  · have whole : nanos * 10 ^ (9 - 9) = nanos := by omega
    rw [point, List.cons_append, fraction?_padded (by decide) (by decide) h, whole]

/-! ### The whole text -/

/-- The characters of a time in universal time. -/
def written (date : CivilDate) (hour minute second nanos : Nat) : List Char :=
  (yearText date.year).toList ++ '-' :: ((padded 2 date.month).toList ++ '-' ::
    ((padded 2 date.day).toList ++ 'T' :: ((padded 2 hour).toList ++ ':' ::
      ((padded 2 minute).toList ++ ':' :: ((padded 2 second).toList ++
        ((fractionText nanos).toList ++ ['Z']))))))

theorem toList_toRfc3339 (t : Instant) :
    let second := (t.seconds % 86400).toNat
    t.toRfc3339.toList =
      written (CivilDate.ofDays (t.seconds / 86400)) (second / 3600) (second / 60 % 60)
        (second % 60 + if t.isLeap then 1 else 0) (t.nanos % nanosPerSecond) := by
  have marks : "-".toList = ['-'] ∧ "T".toList = ['T'] ∧ ":".toList = [':'] ∧ "Z".toList = ['Z'] :=
    ⟨rfl, rfl, rfl, rfl⟩
  simp only [written, toRfc3339, dateAndTime, String.toList_append, marks, List.append_assoc,
    List.cons_append, List.nil_append]

/-- What is written is read as the parts that it is made of. -/
theorem ofRfc3339?_written {date : CivilDate} {hour minute second nanos : Nat} {s : String}
    (text : s.toList = written date hour minute second nanos) (valid : date.IsValid)
    (hours : hour < 100) (minutes : minute < 100) (seconds : second < 100)
    (fraction : nanos < 1000000000) :
    ofRfc3339? s = ofParts? date hour minute second nanos 0 := by
  obtain ⟨year, month, day⟩ := date
  obtain ⟨-, -, -, month_le, -, day_le⟩ := valid
  have short : CivilDate.monthLength year month ≤ 31 := by
    unfold CivilDate.monthLength
    split_ifs <;> decide
  have months : month < 100 := by simp only at month_le; omega
  have days : day < 100 := by simp only at day_le; omega
  have dash (rest : List Char) : mark? '-' ('-' :: rest) = some rest := mark?_cons rfl rest
  have colon (rest : List Char) : mark? ':' (':' :: rest) = some rest := mark?_cons rfl rest
  have zone : offset? (Text.trimStartChars ['Z']) = some (0, []) := by
    rw [trimStartChars_cons rfl]
    rfl
  -- Every reader takes its part and hands the rest on to the next: first the date, then the time.
  rw [ofRfc3339?, text, written, year?_yearText]
  dsimp only [Option.bind_eq_bind, Option.bind_some]
  rw [dash, Option.bind_some, field?_padded months]
  dsimp only [Option.bind_some]
  rw [dash, Option.bind_some, field?_padded days]
  dsimp only [Option.bind_some]
  change (field? ((padded 2 hour).toList ++ _)).bind _ = _
  rw [field?_padded hours]
  dsimp only [Option.bind_some]
  rw [colon, Option.bind_some, field?_padded minutes]
  dsimp only [Option.bind_some]
  rw [colon, Option.bind_some, field?_padded seconds]
  dsimp only [Option.bind_some]
  rw [fraction?_fractionText fraction]
  dsimp only [Option.bind_some]
  rw [zone]
  rfl

/-! ### Parts of an instant -/

section
variable {date : CivilDate} {hour minute : Nat} (valid : date.IsValid) (hours : hour < 24)
  (minutes : minute < 60) (nanos : Nat)
include valid hours minutes

theorem ofParts?_of_lt {second : Nat} (seconds : second < 60) :
    ofParts? date hour minute second nanos 0 =
      ofUnix? (date.toDays * 86400 + (hour * 3600 + minute * 60 + second : Nat)) nanos := by
  rw [ofParts?, if_pos ⟨valid, hours, minutes, seconds.le, by decide⟩, if_neg seconds.ne,
    if_neg seconds.ne]
  dsimp only
  rw [Int.sub_zero, Nat.add_zero]

/-- Second 60 is the leap second after second 59. -/
theorem ofParts?_sixty :
    ofParts? date hour minute 60 nanos 0 =
      ofUnix? (date.toDays * 86400 + (hour * 3600 + minute * 60 + 59 : Nat))
        (nanos + nanosPerSecond) := by
  rw [ofParts?, if_pos ⟨valid, hours, minutes, Nat.le_refl 60, by decide⟩, if_pos rfl, if_pos rfl]
  dsimp only
  rw [Int.sub_zero]

end

/-- What the text of an instant is read as. -/
theorem ofRfc3339?_toRfc3339 (t : Instant) :
    ofRfc3339? t.toRfc3339 =
      if t.isLeap ∧ t.seconds % 60 ≠ 59 then ofUnix? (t.seconds + 1) (t.nanos - nanosPerSecond)
      else ofUnix? t.seconds t.nanos := by
  have start := t.inCalendar.1
  have stop := t.inCalendar.2
  simp only [firstSecond, lastSecond] at start stop
  have valid : (CivilDate.ofDays (t.seconds / 86400)).IsValid :=
    CivilDate.isValid_ofDays (by omega)
  obtain ⟨second, hsecond⟩ : ∃ second, second = (t.seconds % 86400).toNat := ⟨_, rfl⟩
  have hours : second / 3600 < 24 := by omega
  have minutes : second / 60 % 60 < 60 := Nat.mod_lt _ (by decide)
  have fraction : t.nanos % nanosPerSecond < 1000000000 := Nat.mod_lt _ (by decide)
  have shown : second % 60 + (if t.isLeap then 1 else 0) < 100 := by split_ifs <;> omega
  have total (n : Nat) : t.seconds / 86400 * 86400 +
      (second / 3600 * 3600 + second / 60 % 60 * 60 + n : Nat) =
        t.seconds - t.seconds % 60 + n := by omega
  have text := toList_toRfc3339 t
  simp only [← hsecond] at text
  rw [ofRfc3339?_written text valid (by omega) (by omega) shown fraction]
  have lessThanTwo := t.nanos_lt
  cases leap : t.isLeap with
  | false =>
      have plain : t.nanos % nanosPerSecond = t.nanos :=
        Nat.mod_eq_of_lt (isLeap_eq_false_iff.mp leap)
      have same : t.seconds - t.seconds % 60 + (second % 60 : Nat) = t.seconds := by omega
      simp only [Bool.false_eq_true, false_and, if_false, Nat.add_zero]
      rw [ofParts?_of_lt valid hours minutes _ (Nat.mod_lt _ (by decide)),
        CivilDate.toDays_ofDays, total, plain, same]
  | true =>
      have late : nanosPerSecond ≤ t.nanos := of_decide_eq_true leap
      have rest : t.nanos % nanosPerSecond = t.nanos - nanosPerSecond := by
        rw [Nat.mod_eq_sub_mod late, Nat.mod_eq_of_lt (by omega)]
      simp only [if_true, true_and]
      by_cases last : t.seconds % 60 = 59
      · have sixty : second % 60 + 1 = 60 := by omega
        have same : t.seconds - t.seconds % 60 + (59 : Nat) = t.seconds := by omega
        rw [if_neg (not_not_intro last), sixty, ofParts?_sixty valid hours minutes,
          CivilDate.toDays_ofDays, total, rest, same, Nat.sub_add_cancel late]
      · have same : t.seconds - t.seconds % 60 + (second % 60 + 1 : Nat) = t.seconds + 1 := by
          omega
        rw [if_pos last, ofParts?_of_lt valid hours minutes _ (by omega),
          CivilDate.toDays_ofDays, total, rest, same]

/-! ### Instants -/

theorem seconds_of_ofUnix? {seconds : Int} {nanos : Nat} {t : Instant}
    (h : ofUnix? seconds nanos = some t) : t.seconds = seconds := by
  unfold ofUnix? at h
  split at h
  · cases h
    rfl
  · cases h

theorem ofUnix?_eq_self {t : Instant} (regular : t.isLeap → t.seconds % 60 = 59) :
    ofUnix? t.seconds t.nanos = some t := by
  obtain ⟨seconds, nanos, nanos_lt, inCalendar⟩ := t
  rw [ofUnix?, dif_pos]
  refine ⟨?_, inCalendar⟩
  simp only [isLeap, decide_eq_true_eq] at regular
  rcases Nat.lt_or_ge nanos nanosPerSecond with plain | leap
  · exact .inl plain
  · exact .inr ⟨nanos_lt, regular leap⟩

/-- **An instant is read back** exactly if it is in no leap second, or in one that ends a minute. -/
theorem ofRfc3339?_toRfc3339_iff {t : Instant} :
    ofRfc3339? t.toRfc3339 = some t ↔ (t.isLeap → t.seconds % 60 = 59) := by
  rw [ofRfc3339?_toRfc3339]
  constructor
  · intro back leap
    by_contra last
    rw [if_pos ⟨leap, last⟩] at back
    have next := seconds_of_ofUnix? back
    omega
  · intro regular
    rw [if_neg fun odd => odd.2 (regular odd.1), ofUnix?_eq_self regular]

end Courier.Instant
