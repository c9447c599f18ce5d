import Mathlib.Tactic.IntervalCases
import RunArchive.Proofs.Decimal.Unsigned
import RunArchive.Proofs.Time.Calendar
import RunArchive.Proofs.Time.Instant
import RunArchive.Time.Timestamp

/-!
# Timestamps are read back

The text of an instant is read as that instant, whatever its year is, with every fraction of a
second and within leap seconds at the end of a minute.  A leap second anywhere else has the text of
the second that follows, and is read as that.

Each part of a timestamp is digits with something behind them that is none.  So each reader takes
just the part that has been written, and the text is read part by part, each lemma leaving general
what comes behind.  The calendar gives the date back, and the time of day is that of the instant
again; both meet in `assemble_parts`.
-/

namespace RunArchive.Timestamp

/-! ## Digits -/

/-- A text that does not go on with a digit. -/
def Halts (rest : List Char) : Prop := ∀ character ∈ rest.head?, character.isDigit = false

theorem halts_cons {character : Char} (mark : character.isDigit = false) (rest : List Char) :
    Halts (character :: rest) := by
  intro first isFirst
  cases isFirst
  exact mark

/-- Digits, at least one. -/
def Digital (digits : List Char) : Prop :=
  digits ≠ [] ∧ ∀ character ∈ digits, character.isDigit = true

section Padded

variable (width value : Nat)

theorem digital_padded : Digital (padded width value) :=
  ⟨Unsigned.written_nonempty _ value, Unsigned.written_digital _ value⟩

/-- Digits with zeros in front of them denote the number that is written. -/
theorem valueOf_padded : Unsigned.valueOf (padded width value) = value :=
  Unsigned.valueOf_written _ value

variable {width value}

theorem length_padded (positive : 0 < width) (fits : value < 10 ^ width) :
    (padded width value).length = width := by
  have digits : (Nat.toDigits 10 value).length ≤ width :=
    (Nat.length_toDigits_le_iff (by decide) positive).mpr fits
  rw [padded, List.length_append, List.length_replicate]
  omega

end Padded

/-! ## Readers of parts -/

section Readers

variable {digits rest : List Char}

theorem isDigit_first
    {first : Char} {more : List Char} (digital : Digital digits)
    (same : digits ++ rest = first :: more) :
    first.isDigit = true := by
  cases digits with
  | nil => exact absurd rfl digital.1
  | cons character digits =>
      rw [← (List.cons.inj same).1]
      exact digital.2 character List.mem_cons_self

theorem takeWhile_digits (digital : Digital digits) (halts : Halts rest) :
    (digits ++ rest).takeWhile Char.isDigit = digits := by
  rw [List.takeWhile_append_of_pos digital.2]
  cases rest with
  | nil => simp
  | cons character rest =>
      rw [List.takeWhile_cons_of_neg (by simp [halts character rfl]), List.append_nil]

theorem dropWhile_halts (halts : Halts rest) : rest.dropWhile Char.isDigit = rest := by
  cases rest with
  | nil => rfl
  | cons character rest => exact List.dropWhile_cons_of_neg (by simp [halts character rfl])

theorem halts_take (halts : Halts rest) (count : Nat) : Halts (rest.take count) := by
  intro character first
  cases rest with
  | nil => simp at first
  | cons other rest =>
      cases count with
      | zero => cases first
      | succ count => exact halts character first

theorem takeWhile_take
    {most : Nat} (digital : Digital digits) (few : digits.length ≤ most) (halts : Halts rest) :
    ((digits ++ rest).take most).takeWhile Char.isDigit = digits := by
  rw [List.take_append, List.take_of_length_le few]
  exact takeWhile_digits digital (halts_take halts _)

theorem readNumber_digits
    {most : Nat} (digital : Digital digits) (few : digits.length ≤ most) (halts : Halts rest) :
    readNumber most (digits ++ rest) = some (Unsigned.valueOf digits, rest) := by
  have some_digit : digits.isEmpty = false := List.isEmpty_eq_false_iff.mpr digital.1
  simp only [readNumber, takeWhile_take digital few halts, some_digit, Bool.false_eq_true,
    if_false, List.drop_left]

theorem trimStart_digits (digital : Digital digits) (rest : List Char) :
    Text.trimStart (digits ++ rest) = digits ++ rest := by
  cases digits with
  | nil => exact absurd rfl digital.1
  | cons character digits =>
      have digit := digital.2 character List.mem_cons_self
      exact List.dropWhile_cons_of_neg (by simp [Unsigned.isBlank_digit digit])

theorem trimStart_mark {mark : Char} (visible : Text.isBlank mark = false) (rest : List Char) :
    Text.trimStart (mark :: rest) = mark :: rest :=
  List.dropWhile_cons_of_neg (by simp [visible])

theorem readMark_mark {mark : Char} (visible : Text.isBlank mark = false) (rest : List Char) :
    readMark mark (mark :: rest) = some rest := by
  simp only [readMark, trimStart_mark visible, if_true]

/-- A part of two digits is read. -/
theorem readPart_padded {value : Nat} (fits : value < 100) (halts : Halts rest) :
    readPart (padded 2 value ++ rest) = some (value, rest) := by
  have digital := digital_padded 2 value
  have few : (padded 2 value).length ≤ 2 := (length_padded (by decide) fits).le
  rw [readPart, trimStart_digits digital, readNumber_digits digital few halts, valueOf_padded]

/-- A year with as many digits as it has is read behind its sign. -/
theorem readYear_signed
    {sign : Char} (signed : sign = '-' ∨ sign = '+') {year : Nat} (halts : Halts rest) :
    readYear (sign :: (padded 4 year ++ rest)) =
      some (if sign = '-' then -(year : Int) else year, rest) := by
  have digital := digital_padded 4 year
  have read : readNumber (padded 4 year ++ rest).length (padded 4 year ++ rest) =
      some (year, rest) := by
    rw [readNumber_digits digital (by simp) halts, valueOf_padded]
  rcases signed with minus | plus
  · subst minus
    rw [readYear, trimStart_mark (by decide)]
    simp only [read]
    rfl
  · subst plus
    rw [readYear, trimStart_mark (by decide)]
    simp only [read]
    rfl

/-- A year of four digits is read. -/
theorem readYear_unsigned {year : Nat} (fits : year < 10000) (halts : Halts rest) :
    readYear (padded 4 year ++ rest) = some ((year : Int), rest) := by
  have digital := digital_padded 4 year
  have few : (padded 4 year).length ≤ 4 := (length_padded (by decide) fits).le
  have read : readNumber 4 (padded 4 year ++ rest) = some (year, rest) := by
    rw [readNumber_digits digital few halts, valueOf_padded]
  rw [readYear, trimStart_digits digital]
  split
  · rename_i same
    exact absurd (isDigit_first digital same) (by decide)
  · rename_i same
    exact absurd (isDigit_first digital same) (by decide)
  · simp only [read]
    rfl

theorem readYear_text (year : Int) (halts : Halts rest) :
    readYear (yearText year ++ rest) = some (year, rest) := by
  unfold yearText
  by_cases plain : 0 ≤ year ∧ year ≤ 9999
  · rw [if_pos plain, readYear_unsigned (by omega) halts, Int.toNat_of_nonneg plain.1]
  · rw [if_neg plain, List.cons_append]
    by_cases negative : year < 0
    · rw [if_pos negative, readYear_signed (Or.inl rfl) halts, if_pos rfl]
      congr 2
      omega
    · rw [if_neg negative, readYear_signed (Or.inr rfl) halts, if_neg (by decide)]
      congr 2
      omega

/-- A fraction of this many digits is read. -/
theorem readFraction_padded
    {width value : Nat} (positive : 0 < width) (few : width ≤ 9) (fits : value < 10 ^ width)
    (halts : Halts rest) :
    readFraction ('.' :: (padded width value ++ rest)) =
      some (value * 10 ^ (9 - width), rest) := by
  have digital := digital_padded width value
  have length := length_padded positive fits
  have short : (padded width value).length ≤ 9 := length.trans_le few
  simp only [readFraction, takeWhile_take digital short halts,
    readNumber_digits digital short halts, valueOf_padded, length, Option.bind_eq_bind,
    Option.bind_some, dropWhile_halts halts, Nat.pow_eq, Option.pure_def]

theorem readFraction_text
    {nanos : Nat} (fits : nanos < Instant.second) (halts : Halts rest)
    (pointless : rest.head? ≠ some '.') :
    readFraction (fractionText nanos ++ rest) = some (nanos, rest) := by
  rw [Instant.second] at fits
  unfold fractionText
  by_cases whole : nanos = 0
  · rw [if_pos whole, whole, List.nil_append]
    unfold readFraction
    split
    · rename_i point
      exact absurd rfl pointless
    · rfl
  rw [if_neg whole]
  by_cases millis : nanos % 1000000 = 0
  · rw [if_pos millis, List.cons_append,
      readFraction_padded (by decide) (by decide) (by omega) halts]
    congr 2
    omega
  rw [if_neg millis]
  by_cases micros : nanos % 1000 = 0
  · rw [if_pos micros, List.cons_append,
      readFraction_padded (by decide) (by decide) (by omega) halts]
    congr 2
    omega
  · rw [if_neg micros, List.cons_append,
      readFraction_padded (by decide) (by decide) (by omega) halts]
    congr 2
    omega

end Readers

/-! ## The parts of an instant -/

section Parts

variable (instant : Instant)

/-- The date of an instant. -/
def dateOf : Date := Date.ofDays (instant.seconds / Instant.day)

/-- The time of day of an instant, in seconds. -/
def timeOf : Nat := instant.secondOfDay.toNat

/-- The second of its minute, which is 60 in a leap second. -/
def secondOf : Nat := if instant.isLeap then timeOf instant % 60 + 1 else timeOf instant % 60

theorem timeOf_eq : (timeOf instant : Int) = instant.seconds % Instant.day :=
  Int.toNat_of_nonneg (Int.emod_nonneg _ (by decide))

theorem timeOf_lt : timeOf instant < 86400 := by
  have time := timeOf_eq instant
  rw [Instant.day] at time
  omega

/-- A leap second that is not misplaced follows the last second of a minute. -/
theorem leap_time (placed : ¬ instant.Misplaced) (leap : instant.isLeap = true) :
    timeOf instant % 60 = 59 := by
  have late : Instant.second ≤ instant.nanos := of_decide_eq_true leap
  have last : instant.seconds % 60 = 59 := by
    by_contra early
    exact placed ⟨late, early⟩
  have time := timeOf_eq instant
  rw [Instant.day] at time
  omega

theorem secondOf_le : secondOf instant ≤ 60 := by
  unfold secondOf
  split <;> omega

theorem date_exists : (dateOf instant).Exists := by
  rcases instant.valid with ⟨low, high, -⟩
  rw [Instant.firstSecond] at low
  rw [Instant.lastSecond] at high
  apply Date.exists_ofDays
  · rw [Date.firstKept, Instant.day]
    omega
  · rw [Date.lastKept, Instant.day]
    omega

theorem month_range : 1 ≤ (dateOf instant).month ∧ (dateOf instant).month ≤ 12 := by
  rcases date_exists instant with ⟨-, -, first, last⟩
  have some_day := first.trans last
  unfold Date.daysInMonth at some_day
  split at some_day
  all_goals simp_all

theorem day_le : (dateOf instant).day ≤ 31 := by
  apply (date_exists instant).2.2.2.trans
  unfold Date.daysInMonth
  split <;> try decide
  split <;> decide

theorem of?_eq
    {seconds : Int} {nanos : Nat}
    (sameSeconds : seconds = instant.seconds) (sameNanos : nanos = instant.nanos) :
    Instant.of? seconds nanos = some instant := by
  subst sameSeconds sameNanos
  exact dif_pos instant.valid

/-- The parts of an instant make it up again. -/
theorem assemble_parts (placed : ¬ instant.Misplaced) :
    assemble (dateOf instant) (timeOf instant / 3600) (timeOf instant / 60 % 60)
      (secondOf instant) (instant.nanos % Instant.second) 0 = some instant := by
  have time := timeOf_eq instant
  have early := timeOf_lt instant
  have admitted :
      (dateOf instant).Exists ∧ timeOf instant / 3600 ≤ 23 ∧ timeOf instant / 60 % 60 ≤ 59 ∧
        secondOf instant ≤ 60 ∧ -Instant.day < 0 ∧ (0 : Int) < Instant.day :=
    ⟨date_exists instant, by omega, by omega, secondOf_le instant, by decide, by decide⟩
  have days : (dateOf instant).toDays = instant.seconds / Instant.day := Date.toDays_ofDays _
  have parts := Int.mul_ediv_add_emod instant.seconds Instant.day
  have small := instant.valid.2.2
  rw [assemble, if_pos admitted, days]
  rw [Instant.day] at time parts
  rw [Instant.second] at small
  cases leap : instant.isLeap with
  | true =>
      have last := leap_time instant placed leap
      have late : Instant.second ≤ instant.nanos := of_decide_eq_true leap
      have sixty : secondOf instant = 60 := by
        rw [secondOf, if_pos leap, last]
      rw [Instant.second] at late
      apply of?_eq
      · simp only [sixty, Instant.day]
        omega
      · simp only [sixty, Instant.second, if_true]
        omega
  | false =>
      have early : ¬ Instant.second ≤ instant.nanos := of_decide_eq_false leap
      have plain : secondOf instant = timeOf instant % 60 := by
        rw [secondOf, leap, if_neg Bool.false_ne_true]
      have counted : timeOf instant % 60 ≠ 60 := by omega
      rw [Instant.second] at early
      apply of?_eq
      · simp only [plain, Instant.day]
        omega
      · simp only [plain, if_neg counted, Instant.second]
        omega

end Parts

/-! ## The whole text -/

theorem text_eq (instant : Instant) :
    text instant =
      yearText (dateOf instant).year ++
        '-' :: (padded 2 (dateOf instant).month ++
        '-' :: (padded 2 (dateOf instant).day ++
        'T' :: (padded 2 (timeOf instant / 3600) ++
        ':' :: (padded 2 (timeOf instant / 60 % 60) ++
        ':' :: (padded 2 (secondOf instant) ++
        (fractionText (instant.nanos % Instant.second) ++ ['Z'])))))) := by
  simp only [text, List.append_assoc, List.cons_append]
  rfl

/-- A part with a mark behind it is read. -/
theorem readPart_mark
    {value : Nat} (fits : value < 100) {mark : Char} (halts : mark.isDigit = false)
    (rest : List Char) :
    readPart (padded 2 value ++ mark :: rest) = some (value, mark :: rest) :=
  readPart_padded fits (halts_cons halts rest)

theorem halts_fraction (nanos : Nat) : Halts (fractionText nanos ++ ['Z']) := by
  unfold fractionText
  split_ifs <;> exact halts_cons (by decide) _

theorem some_bind
    {Value Result : Type} (value : Value) (continuation : Value → Option Result) :
    (some value >>= continuation) = continuation value := rfl

/-- The text of an instant is read as that instant, unless it is in a misplaced leap second. -/
theorem read?_text_placed {instant : Instant} (placed : ¬ instant.Misplaced) :
    read? (text instant) = some instant := by
  have monthRange := month_range instant
  have dayRange := day_le instant
  have timeRange := timeOf_lt instant
  have secondRange := secondOf_le instant
  have year (rest : List Char) :
      readYear (yearText (dateOf instant).year ++ '-' :: rest) =
        some ((dateOf instant).year, '-' :: rest) :=
    readYear_text _ (halts_cons (by decide) rest)
  have month (rest : List Char) :
      readPart (padded 2 (dateOf instant).month ++ '-' :: rest) =
        some ((dateOf instant).month, '-' :: rest) :=
    readPart_mark (by omega) (by decide) rest
  have day (rest : List Char) :
      readPart (padded 2 (dateOf instant).day ++ 'T' :: rest) =
        some ((dateOf instant).day, 'T' :: rest) :=
    readPart_mark (by omega) (by decide) rest
  have hour (rest : List Char) :
      readPart (padded 2 (timeOf instant / 3600) ++ ':' :: rest) =
        some (timeOf instant / 3600, ':' :: rest) :=
    readPart_mark (by omega) (by decide) rest
  have minute (rest : List Char) :
      readPart (padded 2 (timeOf instant / 60 % 60) ++ ':' :: rest) =
        some (timeOf instant / 60 % 60, ':' :: rest) :=
    readPart_mark (by omega) (by decide) rest
  have second :
      readPart (padded 2 (secondOf instant) ++
          (fractionText (instant.nanos % Instant.second) ++ ['Z'])) =
        some (secondOf instant, fractionText (instant.nanos % Instant.second) ++ ['Z']) :=
    readPart_padded (by omega) (halts_fraction _)
  have fraction :
      readFraction (fractionText (instant.nanos % Instant.second) ++ ['Z']) =
        some (instant.nanos % Instant.second, ['Z']) :=
    readFraction_text (Nat.mod_lt _ (by decide)) (halts_cons (by decide) _) (by decide)
  have dash (rest : List Char) : readMark '-' ('-' :: rest) = some rest :=
    readMark_mark (by decide) rest
  have colon (rest : List Char) : readMark ':' (':' :: rest) = some rest :=
    readMark_mark (by decide) rest
  have offset : readOffset (Text.trimStart ['Z']) = some (0, []) := rfl
  have finished : (Text.trimStart []).isEmpty = true := rfl
  rw [text_eq, read?, year, some_bind]
  dsimp only
  rw [dash, some_bind, month, some_bind]
  dsimp only
  rw [dash, some_bind, day, some_bind]
  -- Of the marks between date and time, the one that is written is found.
  change readPart (padded 2 (timeOf instant / 3600) ++ ':' :: _) >>= _ = _
  rw [hour, some_bind]
  dsimp only
  rw [colon, some_bind, minute, some_bind]
  dsimp only
  rw [colon, some_bind, second, some_bind]
  dsimp only
  rw [fraction, some_bind]
  dsimp only
  rw [offset, some_bind]
  dsimp only
  rw [if_pos finished]
  exact assemble_parts instant placed

/-- A misplaced leap second has the date and the time of day of the second that follows. -/
theorem text_aligned (instant : Instant) : text instant.aligned = text instant := by
  by_cases misplaced : instant.Misplaced
  · have aligned := Instant.aligned_misplaced misplaced
    rcases misplaced with ⟨late, early⟩
    have time := timeOf_eq instant
    have nextTime := timeOf_eq instant.aligned
    have small := instant.valid.2.2
    have nextSeconds : instant.aligned.seconds = instant.seconds + 1 := by rw [aligned]
    have nextNanos : instant.aligned.nanos = instant.nanos - Instant.second := by rw [aligned]
    rw [nextSeconds] at nextTime
    unfold Instant.day at time nextTime
    have leap : instant.isLeap = true := decide_eq_true late
    have plain : instant.aligned.isLeap = false := by
      rw [Instant.isLeap, nextNanos]
      apply decide_eq_false
      unfold Instant.second at *
      omega
    have date : dateOf instant.aligned = dateOf instant := by
      rw [dateOf, dateOf, nextSeconds]
      congr 1
      unfold Instant.day
      omega
    have hour : timeOf instant.aligned / 3600 = timeOf instant / 3600 := by omega
    have minute : timeOf instant.aligned / 60 % 60 = timeOf instant / 60 % 60 := by omega
    have second : secondOf instant.aligned = secondOf instant := by
      rw [secondOf, plain, secondOf, leap, if_neg Bool.false_ne_true, if_pos rfl]
      omega
    have fraction :
        instant.aligned.nanos % Instant.second = instant.nanos % Instant.second := by
      rw [nextNanos]
      exact (Nat.mod_eq_sub_mod late).symm
    rw [text_eq, text_eq, date, hour, minute, second, fraction]
  · rw [Instant.aligned_placed misplaced]

/-- The text of an instant is read as that instant, with a misplaced leap second aligned. -/
theorem read?_text (instant : Instant) : read? (text instant) = some instant.aligned := by
  rw [← text_aligned]
  exact read?_text_placed instant.not_misplaced_aligned

end RunArchive.Timestamp
