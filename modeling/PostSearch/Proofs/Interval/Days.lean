import PostSearch.Interval.Dates
import PostSearch.Proofs.Interval.Expressions

/-! # Reading dates

A stated period begins and ends within the calendar, so the bounds of a date expression are days
that exist (`areBounds_dayTexts`). -/

namespace PostSearch.Interval

variable {expr : List Char}

/-- The text is a day of the calendar. -/
def IsDayText (text : String) : Prop :=
  ∃ d : Date, d.Exists ∧ text = String.ofList d.text

/-- Both ends of the period are in the calendar. -/
def IsInCalendar (p : Period) : Prop :=
  p.first.Exists ∧ p.next.Exists

theorem isInCalendar_between {first next : Date} {p : Period}
    (h : Period.between? first next = some p) : IsInCalendar p := by
  unfold Period.between? at h
  split at h
  · cases h
    assumption
  · cases h

theorem isInCalendar_period {s : List Char} {p : Period} (h : period? s = some p) :
    IsInCalendar p := by
  unfold period? at h
  dsimp only at h
  split at h
  · split at h
    · split at h
      · exact isInCalendar_between h
      · cases h
    · split at h
      · exact isInCalendar_between h
      · cases h
    · split at h
      · exact isInCalendar_between h
      · cases h
    · cases h
  · cases h

/-- Something is said of the day, and with days of the calendar. -/
theorem days?_bounds {i : Interval Date} (h : days? expr = some i) :
    IsBounded i ∧ (∀ d ∈ i.lower, d.Exists) ∧ ∀ d ∈ i.upper, d.Exists := by
  unfold days? at h
  dsimp only at h
  split at h
  · rename_i p hp
    cases h
    obtain ⟨hfirst, hnext⟩ := isInCalendar_period hp
    cases (takeComparison (Text.dropFinalNewline expr)).1 <;>
      simp [Comparison.days, IsBounded, hfirst, hnext]
  · obtain ⟨⟨lower, upper⟩, hrange, rfl⟩ := Option.map_eq_some_iff.1 h
    obtain ⟨l, u, -, hl, hu, hsome⟩ := readRange?_eq_some.1 hrange
    have hside : ∀ {s : List Char} {side : Option Period}, readSide? period? s = some side →
        ∀ p ∈ side, IsInCalendar p := by
      rintro s side hs p rfl
      unfold readSide? at hs
      split at hs
      · cases hs
      · obtain ⟨q, hq, e⟩ := Option.map_eq_some_iff.1 hs
        cases e
        exact isInCalendar_period hq
    refine ⟨by simpa [IsBounded] using hsome, fun d hd => ?_, fun d hd => ?_⟩
    · obtain ⟨p, hp, rfl⟩ := Option.map_eq_some_iff.1 hd
      exact (hside hl p hp).1
    · obtain ⟨p, hp, rfl⟩ := Option.map_eq_some_iff.1 hd
      exact (hside hu p hp).2

theorem dayText_spec {day : Option Date} (h : ∀ d ∈ day, d.Exists) :
    (day.isSome → dayText day ≠ "") ∧ (dayText day = "" ∨ IsDayText (dayText day)) := by
  cases day with
  | none => exact ⟨nofun, Or.inl rfl⟩
  | some d =>
      refine ⟨fun _ => ?_, Or.inr ⟨d, h d rfl, rfl⟩⟩
      simp [dayText, Date.text]

theorem areBounds_dayTexts {l u : String} (h : dayTexts? expr = some (l, u)) :
    AreBounds IsDayText [l, u] := by
  obtain ⟨i, hi, e⟩ := Option.map_eq_some_iff.1 h
  cases e
  obtain ⟨hbounded, hlower, hupper⟩ := days?_bounds hi
  obtain ⟨hlne, hl⟩ := dayText_spec hlower
  obtain ⟨hune, hu⟩ := dayText_spec hupper
  exact ⟨_, _, rfl, hbounded.imp hlne hune, hl, hu⟩

end PostSearch.Interval
