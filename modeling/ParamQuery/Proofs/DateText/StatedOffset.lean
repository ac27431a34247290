import ParamQuery.Conversion
import ParamQuery.Proofs.DateText.IsoReading
import ParamQuery.Proofs.Numerals

/-!
# Where the offset of a moment comes from

Of the rules that read a date text, those for numerals, months and halves of the day leave the offset alone (`Keeps`),
and those for zones take it from the words behind a sign.  So the offset of a moment is zero or stated in its text
(`offset_of_words`).

Nothing on the way compares it with a day.  A converted moment has an offset that clocks have, or else its text
states one of a day or more, and ISO texts with such an offset are converted as well (`convert_datetime_offset`).
-/

namespace ParamQuery.DateText

open Calendar
open Number (signed)

/-- The reading that the outcome gives, if it gives one, has the property. -/
def Yields (P : Reading → Prop) (o : Outcome) : Prop :=
  ∀ r used, o = .ok (r, used) → P r

section Yields

variable {P Q : Reading → Prop} {α : Type} {x : Except Failure α}

theorem yields_error {failure : Failure} : Yields P (.error failure) :=
  nofun

theorem yields_ok {r : Reading} {used : Nat} (h : P r) : Yields P (.ok (r, used)) := by
  rintro _ _ ⟨⟩
  exact h

theorem Yields.bind {f : α → Outcome} (h : ∀ a, x = .ok a → Yields P (f a)) : Yields P (x >>= f) := by
  cases x with
  | error failure => exact yields_error
  | ok a => exact h a rfl

theorem Yields.map {f : α → Reading × Nat} (h : ∀ a, x = .ok a → P (f a).1) : Yields P (x.map f) := by
  cases x with
  | error failure => exact yields_error
  | ok a => exact yields_ok (h a rfl)

theorem Yields.mono {o : Outcome} (h : Yields P o) (hPQ : ∀ r, P r → Q r) : Yields Q o :=
  fun r used hr => hPQ r (h r used hr)

end Yields

/-- The rule leaves the offset as it is. -/
def Keeps (r : Reading) (o : Outcome) : Prop :=
  Yields (·.zoneOffset = r.zoneOffset) o

section Keeps

variable (r : Reading) (w : Word)

theorem readClock_keeps : Keeps r (readClock r w) := by
  unfold readClock
  refine Yields.bind fun hour _ => ?_
  split
  · exact Yields.bind fun minute _ => yields_ok rfl
  · exact yields_ok rfl

theorem readSix_keeps : Keeps r (readSix r w) := by
  unfold readSix
  split
  · exact Yields.bind fun _ _ => Yields.bind fun _ _ => Yields.bind fun _ _ => yields_ok rfl
  · exact Yields.bind fun _ _ => Yields.bind fun _ _ => Yields.bind fun _ _ => yields_ok rfl

theorem readEight_keeps : Keeps r (readEight r w) := by
  unfold readEight
  refine Yields.bind fun _ _ => Yields.bind fun _ _ => Yields.bind fun _ _ => ?_
  split
  · exact yields_ok rfl
  · refine Yields.bind fun _ _ => Yields.bind fun _ _ => ?_
    split
    · exact yields_ok rfl
    · exact Yields.bind fun _ _ => yields_ok rfl

theorem zoneOffset_setMinutes (n : Numeral) {r' : Reading} (h : r.setMinutes n = .ok r') :
    r'.zoneOffset = r.zoneOffset := by
  obtain ⟨sixtieths, -, ⟨⟩⟩ := bind_eq_ok_iff.1 h
  rfl

theorem readColon_keeps (n : Numeral) (minutes : Word) (rest : List Word) : Keeps r (readColon r n minutes rest) := by
  unfold readColon
  refine Yields.bind fun m _ => Yields.bind fun r' hr => ?_
  have hkept : r'.zoneOffset = r.zoneOffset := zoneOffset_setMinutes { r with hour := some n.whole } m hr
  split
  · exact Yields.bind fun _ _ => yields_ok hkept
  · exact yields_ok hkept

theorem readSeparated_keeps (separator : Word) (rest : List Word) : Keeps r (readSeparated r w separator rest) := by
  unfold readSeparated
  refine Yields.bind fun parts _ => ?_
  split
  · exact yields_ok rfl
  · split
    · exact yields_ok rfl
    · refine Yields.bind fun parts _ => ?_
      split
      · split
        · exact Yields.bind fun _ _ => yields_ok rfl
        · exact yields_ok rfl
      · exact yields_ok rfl

theorem readDay_keeps (n : Numeral) : Keeps r (readDay r n) := by
  intro r' used h
  have hday := required_eq_ok_iff.1 h
  split at hday
  · obtain ⟨parts, -, ⟨⟩⟩ := Option.map_eq_some_iff.1 hday
    rfl
  · cases hday

theorem zoneOffset_setUnit {unit : ClockUnit} {n : Numeral} {r' : Reading} (h : r.setUnit unit w n = .ok r') :
    r'.zoneOffset = r.zoneOffset := by
  cases unit with
  | hour =>
    obtain ⟨sixtieths, -, ⟨⟩⟩ := bind_eq_ok_iff.1 h
    rfl
  | minute => exact zoneOffset_setMinutes r n h
  | second =>
    obtain ⟨seconds, -, rfl⟩ := Option.map_eq_some_iff.1 (required_eq_ok_iff.1 h)
    rfl

theorem readBy_keeps (rule : NumeralRule) (n : Numeral) : Keeps r (readBy rule r w n) := by
  cases rule with
  | clock => exact readClock_keeps r w
  | six => exact readSix_keeps r w
  | eight => exact readEight_keeps r w
  | colon minutes rest => exact readColon_keeps r n minutes rest
  | separated separator rest => exact readSeparated_keeps r w separator rest
  | half half => exact yields_ok rfl
  | day => exact readDay_keeps r n
  | unit unit? used =>
    cases unit? with
    | none => exact yields_ok rfl
    | some unit => exact Yields.map fun r' hunit => zoneOffset_setUnit r w hunit
  | last half? =>
    cases half? with
    | some half => exact yields_ok rfl
    | none =>
      intro r' used h
      obtain ⟨parts, -, ⟨⟩⟩ := Option.map_eq_some_iff.1 (required_eq_ok_iff.1 h)
      rfl

theorem readMonth_keeps (clock? : Option Clock) (month : Nat) (rest : List Word) :
    Keeps r (readMonth clock? r month rest) := by
  unfold readMonth
  refine Yields.bind fun parts _ => ?_
  split
  · split
    · refine Yields.bind fun _ _ => ?_
      split
      · split
        · exact Yields.bind fun _ _ => yields_ok rfl
        · exact yields_ok rfl
      · exact yields_ok rfl
    · split
      · split
        · exact yields_ok rfl
        · split
          · exact Yields.bind fun _ _ => Yields.bind fun _ _ => yields_ok rfl
          · exact yields_ok rfl
      · exact yields_ok rfl
  · exact yields_ok rfl

theorem readHalf_keeps (half : Half) : Keeps r (readHalf r half) := by
  unfold readHalf
  split
  · split
    · exact yields_ok rfl
    · exact yields_error
  · exact yields_error

end Keeps

/-- Somewhere among the words stands a sign, and behind it an offset of so many seconds. -/
def StatesOffset (ws : List Word) (seconds : Nat) : Prop :=
  ∃ before negative rest, ws = before ++ [IsoZone.sign negative] :: rest ∧ OffsetWords rest seconds

theorem StatesOffset.append {ws : List Word} {seconds : Nat} (h : StatesOffset ws seconds) (before : List Word) :
    StatesOffset (before ++ ws) seconds := by
  obtain ⟨middle, negative, rest, rfl, hrest⟩ := h
  exact ⟨before ++ middle, negative, rest, (List.append_assoc _ _ _).symm, hrest⟩

/-- An offset that has been read is that of universal time, or one that the words state, with either sign. -/
def OffsetFrom (ws : List Word) (r : Reading) : Prop :=
  ∀ offset, r.zoneOffset = some offset →
    offset = 0 ∨ ∃ negative seconds, StatesOffset ws seconds ∧ offset = signed negative seconds

theorem offsetFrom_of_none {ws : List Word} {r : Reading} (h : r.zoneOffset = none) : OffsetFrom ws r := by
  intro offset hoffset
  rw [h] at hoffset
  cases hoffset

theorem Keeps.offsetFrom {ws : List Word} {r : Reading} {o : Outcome} (h : Keeps r o) (hr : OffsetFrom ws r) :
    Yields (OffsetFrom ws) o :=
  h.mono fun _ heq offset hoffset => hr offset (heq.symm.trans hoffset)

/-- Behind a sign, the offset that is read is stated, with the sign or with the other one. -/
theorem readOffset_offsetFrom (r : Reading) (negative other : Bool) (rest : List Word) :
    Yields (OffsetFrom ([IsoZone.sign other] :: rest)) (readOffset r negative rest) := by
  unfold readOffset
  refine Yields.bind fun ⟨seconds, count⟩ hseconds => ?_
  have hstated : StatesOffset ([IsoZone.sign other] :: rest) seconds :=
    ⟨[], other, rest, rfl, offsetSeconds?_eq_some_iff.1 ⟨count, required_eq_ok_iff.1 hseconds⟩⟩
  have hfrom : ∀ name, OffsetFrom ([IsoZone.sign other] :: rest)
      { r with zoneName := name, zoneOffset := some (signed negative seconds) } := by
    rintro name offset ⟨⟩
    exact .inr ⟨negative, seconds, hstated, rfl⟩
  dsimp only
  split
  · split
    · exact yields_ok (hfrom _)
    · exact yields_ok (hfrom _)
  · exact yields_ok (hfrom _)

theorem OffsetFrom.append {ws : List Word} {r : Reading} (h : OffsetFrom ws r) (before : List Word) :
    OffsetFrom (before ++ ws) r := by
  intro offset hoffset
  rcases h offset hoffset with hzero | ⟨negative, seconds, hstated, hsigned⟩
  · exact .inl hzero
  · exact .inr ⟨negative, seconds, hstated.append before, hsigned⟩

theorem readZoneOffset_offsetFrom (r : Reading) (name : Word) (negative other : Bool) (rest : List Word) :
    Yields (OffsetFrom ([IsoZone.sign other] :: rest)) (readZoneOffset r name negative rest) :=
  Yields.map fun outcome hread => readOffset_offsetFrom _ negative other rest outcome.1 outcome.2 hread

theorem readZoneName_offsetFrom (r : Reading) (name : Word) (rest : List Word) :
    Yields (OffsetFrom rest) (readZoneName r name rest) := by
  unfold readZoneName
  split
  · exact readZoneOffset_offsetFrom r name true false _
  · exact readZoneOffset_offsetFrom r name false true _
  · apply yields_ok
    intro offset hoffset
    dsimp only at hoffset
    split at hoffset
    · cases hoffset
      exact .inl rfl
    · cases hoffset

/-- No word brings in an offset that is not stated. -/
theorem readWord_offsetFrom {clock? : Option Clock} {ws before rest : List Word} {w : Word} {r : Reading}
    (hws : before.reverse ++ w :: rest = ws) (hr : OffsetFrom ws r) :
    Yields (OffsetFrom ws) (readWord clock? r w before rest) := by
  have hsigned : ∀ {o : Outcome}, Yields (OffsetFrom (w :: rest)) o → Yields (OffsetFrom ws) o := by
    intro o h
    rw [← hws]
    exact h.mono fun _ h => h.append before.reverse
  unfold readWord
  -- The rule for zone names and those for the two signs are the ones that touch the offset.
  split
  · exact (readBy_keeps r w _ _).offsetFrom hr
  split
  · exact yields_error
  split
  · exact yields_ok hr
  · exact (readMonth_keeps r clock? _ rest).offsetFrom hr
  · exact (readHalf_keeps r _).offsetFrom hr
  split
  · exact hsigned ((readZoneName_offsetFrom r w rest).mono fun _ h => h.append [w])
  split
  · next hplus =>
    rw [hplus.2] at hsigned
    exact hsigned (readOffset_offsetFrom r false false rest)
  split
  · next hminus =>
    rw [hminus.2] at hsigned
    exact hsigned (readOffset_offsetFrom r true true rest)
  split
  · exact yields_ok hr
  · exact yields_error

theorem Reaches.offsetFrom {clock? : Option Clock} {ws before rest : List Word} {r : Reading}
    (h : Reaches clock? ws r before rest) : OffsetFrom ws r := by
  induction h with
  | start => exact offsetFrom_of_none rfl
  | step h hword ih => exact readWord_offsetFrom h.reverse_append ih _ _ hword

/-- A name of universal time or a number; a name alone is as good as none. -/
theorem zoneOffset_of_offset? {r : Reading} {offset : Int} (h : r.offset? = some offset) :
    offset = 0 ∨ r.zoneOffset = some offset := by
  unfold Reading.offset? at h
  by_cases huniversal : r.zoneName.any isUniversal = true
  · simp only [if_pos huniversal] at h
    split at h
    · exact .inl (Option.some.inj h).symm
    · cases h
  · simp only [if_neg huniversal] at h
    split at h
    · cases hzone : r.zoneOffset with
      | none =>
        rw [hzone] at h
        exact .inl (Option.some.inj h).symm
      | some stated =>
        rw [hzone] at h
        exact .inr h
    · cases h

theorem offset_of_moment? {clock? : Option Clock} {r : Reading} {m : Moment} (h : r.moment? clock? = some m) :
    m.offset = 0 ∨ r.zoneOffset = some m.offset := by
  unfold Reading.moment? at h
  split at h
  · cases h
  · obtain ⟨date, -, h⟩ := Option.bind_eq_some_iff.1 h
    obtain ⟨time, -, h⟩ := Option.bind_eq_some_iff.1 h
    obtain ⟨offset, hoffset, ⟨⟩⟩ := Option.bind_eq_some_iff.1 h
    exact zoneOffset_of_offset? hoffset

/-- The offset of a date text is zero, or stated in it. -/
theorem offset_of_words {clock? : Option Clock} {s : String} {m : Moment} (h : read clock? s = .ok m) :
    m.offset = 0 ∨ ∃ negative seconds, StatesOffset (words s) seconds ∧ m.offset = signed negative seconds := by
  obtain ⟨r, before, hlast, hmoment⟩ := read_eq_ok_iff.1 h
  rcases offset_of_moment? hmoment with hzero | hoffset
  · exact .inl hzero
  · exact hlast.offsetFrom m.offset hoffset

end ParamQuery.DateText

namespace ParamQuery

open Calendar DateText
open Number (signed)

theorem offset_of_ofMicros? {n : Int} {m : Moment} (h : Moment.ofMicros? n = some m) : m.offset = 0 := by
  unfold Moment.ofMicros? at h
  simp only at h
  split at h
  · cases h
  · obtain ⟨date, -, rfl⟩ := Option.map_eq_some_iff.1 h
    rfl

/-- Milliseconds are counted in universal time. -/
theorem offset_of_ofMillis? {millis : Number.Binary64} {m : Moment} (h : Moment.ofMillis? millis = some m) :
    m.offset = 0 := by
  obtain ⟨units, -, h⟩ := Option.bind_eq_some_iff.1 h
  exact offset_of_ofMicros? h

theorem offset_of_readMoment {clock? : Option Clock} {s : String} {m : Moment} (h : readMoment clock? s = .ok m) :
    m.offset = 0 ∨
      ':' ∈ s.toList ∧ ∃ negative seconds, StatesOffset (words s) seconds ∧ m.offset = signed negative seconds := by
  unfold readMoment at h
  split at h
  · next hcolon => exact (offset_of_words h).imp_right fun hstated => ⟨hcolon, hstated⟩
  · obtain ⟨millis, -, h⟩ := Option.bind_eq_some_iff.1 (required_eq_ok_iff.1 h)
    exact .inl (offset_of_ofMillis? h)

/-- An offset of two digits for the hours and two for the minutes is taken as it stands, be it a day or more. -/
theorem convert_isoTextIn_offset (m : Moment) {separator : Char} (hseparator : separator = 'T' ∨ separator = ' ')
    (negative : Bool) {hours minutes : Nat} (hhours : hours < 100) (hminutes : minutes < 100) (field : String) :
    ∃ m' : Moment,
      DataType.datetime.convert field (m.isoTextIn separator (.offset negative hours minutes)) =
        (some (.moment m'), []) ∧
      m'.offset = signed negative (3600 * hours + 60 * minutes) ∧
      (m'.offset? = none ↔ 24 * 60 ≤ 60 * hours + minutes) := by
  have hfits : (IsoZone.offset negative hours minutes).Fits := ⟨hhours, hminutes⟩
  refine ⟨_, convert_isoTextIn m hseparator hfits field, rfl, ?_⟩
  simp only [Moment.offset?, IsoZone.seconds, Number.natAbs_signed, ite_eq_right_iff, reduceCtorEq, imp_false]
  omega

/-- The offset of the moment is less than a day either way, or the text states one of a day or more, and it is that
one. -/
def HasOffsetOf (s : String) (m : Moment) : Prop :=
  m.offset? = some m.offset ∨
    ':' ∈ s.toList ∧ ∃ negative seconds, StatesOffset (words s) seconds ∧ 86400 ≤ seconds ∧
      m.offset = signed negative seconds ∧ m.offset? = none

theorem hasOffsetOf_of_readMoment {clock? : Option Clock} {s : String} {m : Moment}
    (h : readMoment clock? s = .ok m) : HasOffsetOf s m := by
  rcases Nat.lt_or_ge m.offset.natAbs 86400 with hlt | hge
  · exact .inl (if_pos hlt)
  · right
    rcases offset_of_readMoment h with hzero | ⟨hcolon, negative, seconds, hstated, hoffset⟩
    · rw [hzero] at hge
      exact absurd hge (by decide)
    · have hday : 86400 ≤ seconds := by rwa [hoffset, Number.natAbs_signed] at hge
      exact ⟨hcolon, negative, seconds, hstated, hday, hoffset, if_neg (Nat.not_lt.2 hge)⟩

/-- At every time, a date-time is converted to a moment, noted as a failure, or has a colon and is too long to be
computed with. -/
theorem convertNoting_datetime_offset (clock? : Option Clock) (field s : String) (noted : List Problem) :
    (∃ m : Moment, DataType.datetime.convertNoting clock? field s noted = (noted, .ok (some (.moment m))) ∧
      HasOffsetOf s m) ∨
    DataType.datetime.convertNoting clock? field s noted = (noted ++ [.unconvertible s field .datetime], .ok none) ∨
    ':' ∈ s.toList ∧ DataType.datetime.convertNoting clock? field s noted = (noted, .error .beyondPrecision) := by
  cases hread : readMoment clock? s with
  | ok m =>
    have hvalue : DataType.datetime.read clock? s = .ok (.moment m) := by
      rw [DataType.read, hread]
      rfl
    exact .inl ⟨m, DataType.convertNoting_of_ok hvalue field noted, hasOffsetOf_of_readMoment hread⟩
  | error failure =>
    have hvalue : DataType.datetime.read clock? s = .error failure := by
      rw [DataType.read, hread]
      rfl
    cases failure with
    | noValue => exact .inr (.inl (DataType.convertNoting_of_noValue hvalue field noted))
    | beyondPrecision =>
      exact .inr (.inr ⟨mem_colon_of_beyondPrecision hread,
        DataType.convertNoting_of_beyondPrecision hvalue field noted⟩)

theorem convert_datetime_cases (field s : String) :
    (∃ m : Moment, DataType.datetime.convert field s = (some (.moment m), []) ∧ HasOffsetOf s m) ∨
      DataType.datetime.convert field s = (none, [.unconvertible s field .datetime]) := by
  unfold DataType.convert DataType.convert? DataType.read
  cases hread : readMoment none s with
  | error failure => exact .inr rfl
  | ok m => exact .inl ⟨m, rfl, hasOffsetOf_of_readMoment hread⟩

/-- A date-time is noted as a failure or converted to a moment; its offset is less than a day either way, unless the
text states one of a day or more, and then it is that one.  ISO texts with such an offset are never failures.  Only a
number of too many digits ends the conversion in another way. -/
theorem convert_datetime_offset (field : String) :
    (∀ s : String,
      (∃ m : Moment, DataType.datetime.convert field s = (some (.moment m), []) ∧ HasOffsetOf s m) ∨
      DataType.datetime.convert field s = (none, [.unconvertible s field .datetime])) ∧
    (∀ (m : Moment) (separator : Char), separator = 'T' ∨ separator = ' ' →
      ∀ (negative : Bool) (hours minutes : Nat), hours < 100 → minutes < 100 → ∃ m' : Moment,
        DataType.datetime.convert field (m.isoTextIn separator (.offset negative hours minutes)) =
          (some (.moment m'), []) ∧
        m'.offset = signed negative (3600 * hours + 60 * minutes) ∧
        (m'.offset? = none ↔ 24 * 60 ≤ 60 * hours + minutes)) ∧
    ∀ (clock? : Option Clock) (s : String) (noted : List Problem),
      (∃ m : Moment, DataType.datetime.convertNoting clock? field s noted = (noted, .ok (some (.moment m))) ∧
        HasOffsetOf s m) ∨
      DataType.datetime.convertNoting clock? field s noted =
        (noted ++ [.unconvertible s field .datetime], .ok none) ∨
      ':' ∈ s.toList ∧
        DataType.datetime.convertNoting clock? field s noted = (noted, .error .beyondPrecision) :=
  ⟨convert_datetime_cases field,
    fun m _ hseparator negative _ _ hhours hminutes =>
      convert_isoTextIn_offset m hseparator negative hhours hminutes field,
    fun clock? s noted => convertNoting_datetime_offset clock? field s noted⟩

/-- A day ahead of universal time is no offset that clocks have. -/
theorem convert_isoText_dayAhead :
    ∃ m : Moment, DataType.datetime.convert "created" "2020-01-02 03:04:05+24:00" = (some (.moment m), []) ∧
      m.offset = 86400 ∧ m.offset? = none := by
  let m : Moment := ⟨⟨2020, 1, 2, by decide⟩, ⟨3, 4, 5, 0, by decide⟩, 0⟩
  have htext : m.isoTextIn ' ' (.offset false 24 0) = "2020-01-02 03:04:05+24:00" := by decide
  have hfits : (IsoZone.offset false 24 0).Fits := ⟨by decide, by decide⟩
  have hconvert := convert_isoTextIn m (.inr rfl) hfits "created"
  rw [htext] at hconvert
  exact ⟨_, hconvert, rfl, rfl⟩

end ParamQuery
