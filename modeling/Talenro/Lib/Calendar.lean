import Talenro.Lib.Bytes

/-!
# Instants and their RFC 3339 text

An instant is an integer number of nanoseconds since 0001-01-01T00:00:00Z, the
zero `time.Time`.  The file gives the second-resolution UTC rendering of an
instant, its reader, and the round trip between them.

The calendar arithmetic counts days from 0000-03-01, so that the leap day is
the last of a year, and peels off four hundred, one hundred, four and single
years in turn.
-/

set_option autoImplicit false

namespace Talenro.Lib.Calendar

/-- An instant: nanoseconds since the zero `time.Time`. -/
abbrev Instant : Type := ℤ

/-- One microsecond. -/
def microsecond : ℤ := 1000
/-- One second. -/
def second : ℤ := 1000000000
/-- One minute. -/
def minute : ℤ := 60 * second
/-- One hour. -/
def hour : ℤ := 60 * minute
/-- One day. -/
def day : ℤ := 24 * hour

/-- A proleptic Gregorian date. -/
structure Date where
  year : ℤ
  month : ℤ
  day : ℤ
  deriving DecidableEq, Repr

/-- Days from 0000-03-01 to 0001-01-01. -/
def marchOffset : ℤ := 306

/-- Days from 0000-03-01 to the first of March of the year `y`. -/
def daysBeforeMarch (y : ℤ) : ℤ := 365 * y + y / 4 - y / 100 + y / 400

/-- The day number of a date, counted from 0001-01-01. -/
def daysOfDate (d : Date) : ℤ :=
  let shifted := if d.month ≤ 2 then d.month + 9 else d.month - 3
  let year := if d.month ≤ 2 then d.year - 1 else d.year
  daysBeforeMarch year + (153 * shifted + 2) / 5 + (d.day - 1) - marchOffset

/-- The year, counted from the first of March, and the day in it of a day
number counted from 0000-03-01. -/
def marchYear (z : ℤ) : ℤ × ℤ :=
  let inFourHundred := z % 146097
  let hundreds := min (inFourHundred / 36524) 3
  let inHundred := inFourHundred - 36524 * hundreds
  let fours := inHundred / 1461
  let inFour := inHundred - 1461 * fours
  let ones := min (inFour / 365) 3
  (400 * (z / 146097) + 100 * hundreds + 4 * fours + ones, inFour - 365 * ones)

/-- The date of a day number counted from 0001-01-01. -/
def dateOfDays (days : ℤ) : Date :=
  let march := marchYear (days + marchOffset)
  let shifted := (5 * march.2 + 2) / 153
  { year := if shifted < 10 then march.1 else march.1 + 1
    month := if shifted < 10 then shifted + 3 else shifted - 9
    day := march.2 - (153 * shifted + 2) / 5 + 1 }

/-- The days before a March year and the day in it add up to the day number,
and the day in it is one of at most 366. -/
theorem marchYear_spec (z : ℤ) :
    daysBeforeMarch (marchYear z).1 + (marchYear z).2 = z ∧
      0 ≤ (marchYear z).2 ∧ (marchYear z).2 ≤ 365 := by
  simp only [marchYear, daysBeforeMarch]
  generalize hr : z % 146097 = r
  have hr0 : 0 ≤ r := hr ▸ Int.emod_nonneg z (by norm_num)
  have hr1 : r < 146097 := hr ▸ Int.emod_lt_of_pos z (by norm_num)
  have hz : z = 146097 * (z / 146097) + r := by omega
  generalize z / 146097 = q at hz ⊢
  generalize hb : min (r / 36524) 3 = b
  have hb0 : 0 ≤ b ∧ b ≤ 3 := by omega
  have hc0 : 0 ≤ r - 36524 * b ∧ r - 36524 * b ≤ 36524 := by omega
  generalize hu : r - 36524 * b = u at hc0 ⊢
  generalize hc : u / 1461 = c
  have hc1 : 0 ≤ c ∧ c ≤ 24 := by omega
  have hv0 : 0 ≤ u - 1461 * c ∧ u - 1461 * c ≤ 1460 := by omega
  generalize hv : u - 1461 * c = v at hv0 ⊢
  generalize he : min (v / 365) 3 = e
  have he0 : 0 ≤ e ∧ e ≤ 3 := by omega
  have hd0 : 0 ≤ v - 365 * e ∧ v - 365 * e ≤ 365 := by omega
  have h4 : (400 * q + 100 * b + 4 * c + e) / 4 = 100 * q + 25 * b + c := by omega
  have h100 : (400 * q + 100 * b + 4 * c + e) / 100 = 4 * q + b := by omega
  have h400 : (400 * q + 100 * b + 4 * c + e) / 400 = q := by omega
  rw [h4, h100, h400]
  omega

/-- The day number of the date of a day number. -/
theorem daysOfDate_dateOfDays (days : ℤ) : daysOfDate (dateOfDays days) = days := by
  have hspec := marchYear_spec (days + marchOffset)
  rcases hmarch : marchYear (days + marchOffset) with ⟨y, doy⟩
  rw [hmarch] at hspec
  obtain ⟨hsum, hlow, hhigh⟩ := hspec
  simp only at hsum hlow hhigh
  simp only [daysOfDate, dateOfDays, hmarch]
  by_cases hs : (5 * doy + 2) / 153 < 10
  · have hm : ¬ (5 * doy + 2) / 153 + 3 ≤ 2 := by omega
    simp only [hs, hm, ↓reduceIte]
    rw [show (5 * doy + 2) / 153 + 3 - 3 = (5 * doy + 2) / 153 by ring]
    omega
  · have hm : (5 * doy + 2) / 153 - 9 ≤ 2 := by omega
    simp only [hs, hm, ↓reduceIte]
    rw [show y + 1 - 1 = y by ring,
      show (5 * doy + 2) / 153 - 9 + 9 = (5 * doy + 2) / 153 by ring]
    omega

/-- The month and the day of the date of a day number have two digits. -/
theorem dateOfDays_bounds (days : ℤ) :
    (0 ≤ (dateOfDays days).month ∧ (dateOfDays days).month < 100) ∧
      0 ≤ (dateOfDays days).day ∧ (dateOfDays days).day < 100 := by
  have hspec := (marchYear_spec (days + marchOffset)).2
  rcases hmarch : marchYear (days + marchOffset) with ⟨y, doy⟩
  rw [hmarch] at hspec
  obtain ⟨hlow, hhigh⟩ := hspec
  simp only at hlow hhigh
  simp only [dateOfDays, hmarch]
  refine ⟨?_, ?_⟩
  · split <;> omega
  · omega

/-- The year of a day number is its March year or the next one. -/
theorem dateOfDays_year (days : ℤ) : ∃ y doy, daysBeforeMarch y + doy = days + marchOffset ∧
    (0 ≤ doy ∧ doy ≤ 365) ∧ y ≤ (dateOfDays days).year ∧ (dateOfDays days).year ≤ y + 1 := by
  obtain ⟨hsum, hdoy⟩ := marchYear_spec (days + marchOffset)
  refine ⟨_, _, hsum, hdoy, ?_⟩
  simp only [dateOfDays]
  split <;> omega

/-! ## Locations and Unix time -/

/-- A `time.Time`: an instant, and the offset of its location from UTC at that instant. -/
structure LocalTime where
  instant : Instant
  offset : ℤ
  deriving DecidableEq

/-- The year on the calendar of the location. -/
def LocalTime.year (t : LocalTime) : ℤ := (dateOfDays ((t.instant + t.offset) / day)).year

/-- The same instant in UTC. -/
def LocalTime.utc (t : LocalTime) : LocalTime := ⟨t.instant, 0⟩

/-- 1970-01-01T00:00:00Z. -/
def unixEpoch : Instant := 719162 * day

/-- The octets of `UnixNano`, a signed word of 64 bits that wraps around. -/
def unixNanoOctets (t : Instant) : Bytes := bigEndian 8 ((t - unixEpoch) % 2 ^ 64).toNat

/-- The instant of a signed word of nanoseconds since the epoch. -/
def ofUnixNanoOctets (b : Bytes) : Instant :=
  let word := ofBigEndian b
  unixEpoch + if word < 2 ^ 63 then (word : ℤ) else word - 2 ^ 64

@[simp] theorem unixNanoOctets_length (t : Instant) : (unixNanoOctets t).length = 8 :=
  bigEndian_length _ _

/-- The instants whose nanoseconds since the epoch fit into the word are read back. -/
theorem ofUnixNanoOctets_unixNanoOctets {t : ℤ} (hlow : -2 ^ 63 ≤ t - unixEpoch)
    (hhigh : t - unixEpoch < 2 ^ 63) : ofUnixNanoOctets (unixNanoOctets t) = t := by
  have hlt : ((t - unixEpoch) % 2 ^ 64).toNat < 256 ^ 8 := by omega
  rw [ofUnixNanoOctets, unixNanoOctets, ofBigEndian_bigEndian hlt]
  show (_ : ℤ) = t
  split <;> omega

/-- Every word is written as it was read. -/
theorem unixNanoOctets_ofUnixNanoOctets {b : Bytes} (h : b.length = 8) :
    unixNanoOctets (ofUnixNanoOctets b) = b := by
  have hlt := ofBigEndian_lt b
  rw [h] at hlt
  have hword : ((ofUnixNanoOctets b - unixEpoch) % 2 ^ 64).toNat = ofBigEndian b := by
    unfold ofUnixNanoOctets
    dsimp only
    split <;> omega
  have hoctets := bigEndian_ofBigEndian b
  rw [h] at hoctets
  rw [unixNanoOctets, hword, hoctets]

/-- An instant of a year near the present fits into the word. -/
theorem unixNano_bounds {t : ℤ} (hlow : 1700 ≤ (LocalTime.mk t 0).year)
    (hhigh : (LocalTime.mk t 0).year ≤ 2200) :
    -2 ^ 63 ≤ t - unixEpoch ∧ t - unixEpoch < 2 ^ 63 := by
  obtain ⟨y, doy, hsum, ⟨hdoy, hdoy'⟩, hyear, hyear'⟩ := dateOfDays_year ((t + 0) / day)
  simp only [LocalTime.year] at hlow hhigh
  simp only [daysBeforeMarch, marchOffset] at hsum
  have hyears : 1699 ≤ y := by omega
  have hyears' : y ≤ 2200 := by omega
  generalize hdays : (t + 0) / day = days at *
  have hdays_low : 620000 ≤ days := by omega
  have hdays_high : days ≤ 810000 := by omega
  simp only [unixEpoch, day, hour, minute, second] at hdays ⊢
  omega

/-! ## RFC 3339 -/

/-- A number in decimal with at least `width` digits. -/
def padded (width n : ℕ) : Bytes :=
  List.replicate (width - (Decimal.format n).length) 0x30 ++ Decimal.format n

/-- A year with at least four digits and a sign when it is negative. -/
def formatYear (y : ℤ) : Bytes :=
  if y < 0 then 0x2d :: padded 4 y.natAbs else padded 4 y.natAbs

/-- The layout `2006-01-02T15:04:05Z` of six rendered fields. -/
def layout (year month day hour minute second : Bytes) : Bytes :=
  year ++ 0x2d :: (month ++ 0x2d :: (day ++ 0x54 :: (hour ++ 0x3a :: (minute ++ 0x3a ::
    (second ++ [0x5a])))))

/-- `t.Format(time.RFC3339)` of an instant in UTC. -/
def format (t : Instant) : Bytes :=
  let date := dateOfDays (t / second / 86400)
  let clock := t / second % 86400
  layout (formatYear date.year) (padded 2 date.month.toNat) (padded 2 date.day.toNat)
    (padded 2 (clock / 3600).toNat) (padded 2 (clock % 3600 / 60).toNat)
    (padded 2 (clock % 60).toNat)

/-- The number written in `width` digits at an offset of a text. -/
def field (s : Bytes) (offset width : ℕ) : ℤ := (Decimal.value ((s.drop offset).take width) : ℤ)

/-- The instant whose fields stand at the fixed offsets of `2006-01-02T15:04:05Z`. -/
def instantOfFields (s : Bytes) : Instant :=
  let date : Date := { year := field s 0 4, month := field s 5 2, day := field s 8 2 }
  (daysOfDate date * 86400 + field s 11 2 * 3600 + field s 14 2 * 60 + field s 17 2) * second

/-- The reader of the twenty-octet form `2006-01-02T15:04:05Z`: the fields are
read at their fixed offsets, and the instant they denote must be written back
as the same text. -/
def parse (s : Bytes) : Option Instant :=
  if s.length = 20 then
    if format (instantOfFields s) = s then some (instantOfFields s) else none
  else none

theorem padded_length {w n : ℕ} (hw : 0 < w) (h : n < 10 ^ w) : (padded w n).length = w := by
  have := Decimal.format_length_le hw h
  simp only [padded, List.length_append, List.length_replicate]
  omega

theorem value_replicate_append (k : ℕ) (b : Bytes) :
    Decimal.value (List.replicate k 0x30 ++ b) = Decimal.value b := by
  induction k with
  | zero => rfl
  | succ k ih =>
    rw [List.replicate_succ, List.cons_append]
    rw [← ih]
    rfl

theorem value_padded (w n : ℕ) : Decimal.value (padded w n) = n := by
  rw [padded, value_replicate_append, Decimal.value_format]

/-- A field at the start of a text. -/
theorem field_here (text rest : Bytes) {width : ℕ} (h : text.length = width) :
    field (text ++ rest) 0 width = (Decimal.value text : ℤ) := by
  rw [field, List.drop_zero, List.take_left' h]

/-- A field behind a first field and its separator. -/
theorem field_skip (text : Bytes) (separator : UInt8) (rest : Bytes) (offset width : ℕ) :
    field (text ++ separator :: rest) (text.length + 1 + offset) width =
      field rest offset width := by
  have hsplit : text ++ separator :: rest = (text ++ [separator]) ++ rest := by simp
  rw [field, field, hsplit, ← List.drop_drop, List.drop_left' (by simp)]

/-- The six fields of a layout stand at its fixed offsets. -/
theorem instantOfFields_layout {y m d h n s : Bytes} (hy : y.length = 4) (hm : m.length = 2)
    (hd : d.length = 2) (hh : h.length = 2) (hn : n.length = 2) (hs : s.length = 2) :
    instantOfFields (layout y m d h n s) =
      (daysOfDate { year := Decimal.value y, month := Decimal.value m, day := Decimal.value d } *
        86400 + Decimal.value h * 3600 + Decimal.value n * 60 + Decimal.value s) * second := by
  have fy : field (layout y m d h n s) 0 4 = Decimal.value y := field_here _ _ hy
  have fm : field (layout y m d h n s) 5 2 = Decimal.value m := by
    rw [layout, show 5 = y.length + 1 + 0 by omega, field_skip, field_here _ _ hm]
  have fd : field (layout y m d h n s) 8 2 = Decimal.value d := by
    rw [layout, show 8 = y.length + 1 + (m.length + 1 + 0) by omega, field_skip, field_skip,
      field_here _ _ hd]
  have fh : field (layout y m d h n s) 11 2 = Decimal.value h := by
    rw [layout, show 11 = y.length + 1 + (m.length + 1 + (d.length + 1 + 0)) by omega,
      field_skip, field_skip, field_skip, field_here _ _ hh]
  have fn : field (layout y m d h n s) 14 2 = Decimal.value n := by
    rw [layout, show 14 = y.length + 1 + (m.length + 1 + (d.length + 1 + (h.length + 1 + 0))) by
      omega, field_skip, field_skip, field_skip, field_skip, field_here _ _ hn]
  have fs : field (layout y m d h n s) 17 2 = Decimal.value s := by
    rw [layout, show 17 = y.length + 1 + (m.length + 1 + (d.length + 1 + (h.length + 1 +
      (n.length + 1 + 0)))) by omega, field_skip, field_skip, field_skip, field_skip, field_skip,
      field_here _ _ hs]
  simp only [instantOfFields, fy, fm, fd, fh, fn, fs]

theorem layout_length (y m d h n s : Bytes) :
    (layout y m d h n s).length =
      y.length + m.length + d.length + h.length + n.length + s.length + 6 := by
  simp only [layout, List.length_append, List.length_cons, List.length_nil]
  omega

/-- A four-octet year is one of 0000 to 9999. -/
theorem formatYear_of_length {y : ℤ} (h : (formatYear y).length = 4) :
    0 ≤ y ∧ y < 10000 ∧ formatYear y = padded 4 y.natAbs := by
  have hpad : 4 ≤ (padded 4 y.natAbs).length := by
    simp only [padded, List.length_append, List.length_replicate]
    omega
  have hnonneg : ¬ y < 0 := by
    intro hneg
    simp only [formatYear, hneg, ↓reduceIte, List.length_cons] at h
    omega
  have hform : formatYear y = padded 4 y.natAbs := by simp [formatYear, hnonneg]
  have hlt : y.natAbs < 10 ^ 4 := by
    rw [hform] at h
    simp only [padded, List.length_append, List.length_replicate] at h
    have hdigits : (Decimal.format y.natAbs).length ≤ 4 := by omega
    by_cases hz : y.natAbs = 0
    · rw [hz]
      norm_num
    · rw [← Nat.digits_length_le_iff (by norm_num)]
      simpa [Decimal.format, hz] using hdigits
  exact ⟨by omega, by omega, hform⟩

/-- Reading back the text of a whole-second instant that has a four-digit year. -/
theorem parse_format {t : Instant} (haligned : t % second = 0) (hl : (format t).length = 20) :
    parse (format t) = some t := by
  obtain ⟨⟨hm0, hm1⟩, hd0, hd1⟩ := dateOfDays_bounds (t / second / 86400)
  have hdate := daysOfDate_dateOfDays (t / second / 86400)
  generalize hsecs : t / second = secs at *
  have ht : t = secs * second := by
    have := Int.mul_ediv_add_emod t second
    rw [haligned, hsecs] at this
    linarith
  have hclock0 : 0 ≤ secs % 86400 := Int.emod_nonneg _ (by norm_num)
  have hclock1 : secs % 86400 < 86400 := Int.emod_lt_of_pos _ (by norm_num)
  have two : ∀ n : ℕ, n < 100 → (padded 2 n).length = 2 :=
    fun n hn => padded_length (by norm_num) (by simpa using hn)
  have lm := two (dateOfDays (secs / 86400)).month.toNat (by omega)
  have ld := two (dateOfDays (secs / 86400)).day.toNat (by omega)
  have lh := two (secs % 86400 / 3600).toNat (by omega)
  have ln := two (secs % 86400 % 3600 / 60).toNat (by omega)
  have ls := two (secs % 86400 % 60).toNat (by omega)
  have hform : format t = layout (formatYear (dateOfDays (secs / 86400)).year)
      (padded 2 (dateOfDays (secs / 86400)).month.toNat)
      (padded 2 (dateOfDays (secs / 86400)).day.toNat) (padded 2 (secs % 86400 / 3600).toNat)
      (padded 2 (secs % 86400 % 3600 / 60).toNat) (padded 2 (secs % 86400 % 60).toNat) := by
    rw [format, hsecs]
  have ly : (formatYear (dateOfDays (secs / 86400)).year).length = 4 := by
    rw [hform, layout_length] at hl
    omega
  obtain ⟨hy0, hy1, hyform⟩ := formatYear_of_length ly
  have hfields : instantOfFields (format t) = t := by
    rw [hform, instantOfFields_layout ly lm ld lh ln ls, hyform]
    simp only [value_padded]
    have hdate' : Date.mk (dateOfDays (secs / 86400)).year.natAbs
        (dateOfDays (secs / 86400)).month.toNat (dateOfDays (secs / 86400)).day.toNat =
          dateOfDays (secs / 86400) := by
      rw [Int.natAbs_of_nonneg hy0, Int.toNat_of_nonneg hm0, Int.toNat_of_nonneg hd0]
    rw [hdate', hdate, ht]
    congr 1
    have eh : ((secs % 86400 / 3600).toNat : ℤ) = secs % 86400 / 3600 :=
      Int.toNat_of_nonneg (by omega)
    have en : ((secs % 86400 % 3600 / 60).toNat : ℤ) = secs % 86400 % 3600 / 60 :=
      Int.toNat_of_nonneg (by omega)
    have es : ((secs % 86400 % 60).toNat : ℤ) = secs % 86400 % 60 :=
      Int.toNat_of_nonneg (by omega)
    rw [eh, en, es]
    omega
  simp [parse, hl, hfields]

/-- What the reader accepts is the rendering of the instant it returns, which
is a whole number of seconds. -/
theorem format_of_parse {s : Bytes} {t : Instant} (h : parse s = some t) :
    format t = s ∧ t % second = 0 ∧ s.length = 20 := by
  unfold parse at h
  split at h
  · next hl =>
    split at h
    · next hf =>
      cases h
      refine ⟨hf, ?_, hl⟩
      simp [instantOfFields, Int.mul_emod_left]
    · cases h
  · cases h

/-- The reader and the rendering agree on whole-second instants. -/
theorem eq_of_parse_format {t u : Instant} (haligned : t % second = 0)
    (h : parse (format t) = some u) : u = t := by
  have hl := (format_of_parse h).2.2
  rw [parse_format haligned hl] at h
  exact (Option.some.inj h).symm

theorem padded_ascii (width n : ℕ) : ∀ c ∈ padded width n, c < 0x80 := by
  intro c hc
  rcases List.mem_append.mp hc with hzero | hdigit
  · rw [(List.mem_replicate.mp hzero).2]
    decide
  · exact Decimal.isDigit_ascii (Decimal.format_digits n c hdigit)

/-- The text of an instant is ASCII. -/
theorem format_ascii (t : Instant) : ∀ c ∈ format t, c < 0x80 := by
  have hyear : ∀ y : ℤ, ∀ c ∈ formatYear y, c < 0x80 := by
    intro y c hc
    unfold formatYear at hc
    split at hc
    · rcases List.mem_cons.mp hc with rfl | hc
      · decide
      · exact padded_ascii _ _ c hc
    · exact padded_ascii _ _ c hc
  intro c hc
  simp only [format, layout, List.mem_append, List.mem_cons, List.not_mem_nil, or_false] at hc
  rcases hc with h | rfl | h | rfl | h | rfl | h | rfl | h | rfl | h | rfl
  · exact hyear _ c h
  all_goals first
    | decide
    | exact padded_ascii _ _ c h

end Talenro.Lib.Calendar
