import Rulebook.Proofs.Predicate.Dates

/-!
# Checks of dates on two clocks

The day of the current moment is looked for on two clocks: on its own one for a plain date, and on
the local one for a time without an offset. A time with an offset is moved to the clock of the
current moment before its day is looked at, and near an end of the calendar there is no such day.

* `DateTime.localReading`, `DateTime.localDay`: what the local clock shows.
* `Predicate.date_checks_answer`: whether a value is after or before the current moment is always
  answered; whether it is of today is, unless its moment cannot be shown.
* `Predicate.isFuture_local`, `Predicate.isToday_local`: times without an offset are compared with
  what the local clock shows.
* `Predicate.times_follow_dates_iff`: times without an offset and their dates are checked alike iff
  the two clocks show the same day.
-/

namespace Rulebook

open DateTime

namespace DateTime

variable {zone : Int} {t : DateTime}

/-- What the local clock shows at a time. A time without an offset is one of the local clock. -/
def localReading (zone : Int) (t : DateTime) : Int :=
  t.momentOn (offsetOfSeconds zone) + offsetOfSeconds zone

/-- The day that the local clock shows at a time. -/
def localDay (zone : Int) (t : DateTime) : Int := t.localReading zone / microsPerDay

theorem localReading_eq_clock (h : t.offset = none) (zone : Int) :
    t.localReading zone = t.clock := by
  unfold localReading momentOn instant
  rw [h, Option.getD_none]
  omega

theorem localDay_eq_date (h : t.offset = none) (zone : Int) :
    t.localDay zone = t.date.ordinal := by
  unfold localDay
  rw [localReading_eq_clock h]
  rfl

theorem localReading_lt_iff {u : DateTime} :
    t.localReading zone < u.localReading zone ↔
      t.momentOn (offsetOfSeconds zone) < u.momentOn (offsetOfSeconds zone) := by
  unfold localReading
  omega

/-- The local clock shows a day of the calendar at a time that can be moved to it, or has no other
clock. -/
theorem inCalendar_localReading (h : t.offset.isSome → t.Reaches zone) :
    InCalendar (t.localReading zone) := by
  cases ht : t.offset with
  | none =>
    rw [localReading_eq_clock ht]
    exact inCalendar_clock t
  | some offset =>
    have hreaches := h (by rw [ht]; rfl)
    exact hreaches.1.2

end DateTime

namespace Predicate

variable {zone : Int} {t now : DateTime}

/-! ## Near the ends of the calendar -/

theorem orderedWithNow_answers (c : Comparison) (h : now.Reaches zone) (v : Value) :
    ∃ b, orderedWithNow c zone v (.datetime now) = .ok b := by
  cases v with
  | date d => exact ⟨_, orderedWithNow_date c zone d now⟩
  | datetime t => exact ⟨_, orderedWithNow_datetime c fun _ => h⟩
  | _ => exact ⟨false, rfl⟩

/-- A time has no day on a clock that cannot show its moment. -/
theorem onClockOf_hidden {n : DateTime} (h : ¬ t.DayShown zone now)
    (hn : n.offset = (if t.offset.isSome then some (t.dayClock zone now) else none)) :
    onClockOf t n = .error (.zone .outOfRange) := by
  unfold DayShown at h
  unfold onClockOf
  rw [hn]
  cases ht : t.offset with
  | none => exact absurd (fun hsome => by rw [ht] at hsome; cases hsome) h
  | some a =>
    have hhidden : ¬ Shown (t.dayClock zone now) (t.instant a) := by
      intro hshown
      apply h
      intro _
      rw [momentOn, ht]
      exact hshown
    simp only [Option.isSome_some, if_true, moveZone_hidden hhidden]
    rfl

theorem isToday_hidden (h : t.Comparable zone now) (hday : ¬ t.DayShown zone now) :
    isToday zone (.datetime t) (.datetime now) = .error (.zone .outOfRange) := by
  obtain ⟨n, hn, hoffset, -⟩ := align_ok h
  simp only [isToday, moment]
  show (align zone t now >>= _) = _
  rw [hn, ok_then, onClockOf_hidden hday hoffset]
  rfl

/-- Where the current moment can be moved to the local clock, it is answered of every value whether
it is after or before that moment. Whether it is of today is answered as well, unless it is a time
with an offset and its moment cannot be shown on the clock on which days are looked at; and if this
is another clock than its own, that is a fault. -/
theorem date_checks_answer (h : now.Reaches zone) (v : Value) :
    (∃ b, isFuture zone v (.datetime now) = .ok b) ∧
      (∃ b, isPast zone v (.datetime now) = .ok b) ∧
      ((∃ b, isToday zone v (.datetime now) = .ok b) ∨
        ∃ t, v = .datetime t ∧ ¬ t.DayShown zone now ∧
          isToday zone v (.datetime now) = .error (.zone .outOfRange)) ∧
      ∀ t, v = .datetime t → t.offset ≠ now.offset → ¬ t.DayShown zone now →
        isToday zone v (.datetime now) = .error (.zone .outOfRange) := by
  refine ⟨orderedWithNow_answers .gt h v, orderedWithNow_answers .lt h v, ?_, ?_⟩
  · cases v with
    | date d => exact .inl ⟨_, isToday_date zone d now⟩
    | datetime t =>
      by_cases hday : t.DayShown zone now
      · exact .inl ⟨_, isToday_datetime (fun _ => h) hday⟩
      · exact .inr ⟨t, rfl, hday, isToday_hidden (fun _ => h) hday⟩
    | _ => exact .inl ⟨false, rfl⟩
  · rintro t rfl - hday
    exact isToday_hidden (fun _ => h) hday

/-- Half an hour past the first midnight of the calendar, on a clock that is an hour ahead. -/
def sampleNight : DateTime := ⟨1800000000, some 3600000000, by decide⟩

/-- In the first night of the calendar universal time is still outside of it. It is not in the
future, but there is no answer to whether it is of today. -/
theorem date_checks_answer_sample :
    sampleEvening.Reaches 0 ∧
      (∃ b, isFuture 0 (.datetime sampleNight) (.datetime sampleEvening) = .ok b) ∧
      isToday 0 (.datetime sampleNight) (.datetime sampleEvening) =
        .error (.zone .outOfRange) := by
  have hreaches : sampleEvening.Reaches 0 := by
    unfold Reaches Shown InCalendar
    decide
  have hhidden : ¬ sampleNight.DayShown 0 sampleEvening := by
    unfold DayShown Shown InCalendar
    decide
  obtain ⟨hfuture, -, -, htoday⟩ := date_checks_answer hreaches (.datetime sampleNight)
  exact ⟨hreaches, hfuture, htoday sampleNight rfl (by decide) hhidden⟩

/-- Whether a value is of today is not always answered. -/
theorem isToday_night :
    sampleEvening.Reaches 0 ∧
      ¬ ∃ b, isToday 0 (.datetime sampleNight) (.datetime sampleEvening) = .ok b := by
  constructor
  · unfold Reaches Shown InCalendar
    decide
  · rintro ⟨b, hb⟩
    cases hb

/-! ## Days on two clocks -/

theorem isFuture_date (zone : Int) (d : Date) (now : DateTime) :
    isFuture zone (.date d) (.datetime now) = .ok (decide (now.date.ordinal < d.ordinal)) :=
  congrArg Except.ok (Comparison.holds_gt _ _)

theorem isPast_date (zone : Int) (d : Date) (now : DateTime) :
    isPast zone (.date d) (.datetime now) = .ok (decide (d.ordinal < now.date.ordinal)) :=
  congrArg Except.ok (Comparison.holds_lt _ _)

/-- A time without an offset can be compared with a current moment that has none either, or that can
be moved to the local clock. -/
theorem comparable_local (ht : t.offset = none) (h : now.offset.isSome → now.Reaches zone) :
    t.Comparable zone now := by
  intro hne
  rw [ht] at hne
  cases hn : now.offset with
  | none => exact absurd (by rw [hn]) hne
  | some offset => exact h (by rw [hn]; rfl)

theorem isFuture_local (ht : t.offset = none) (h : now.offset.isSome → now.Reaches zone) :
    isFuture zone (.datetime t) (.datetime now) =
      .ok (decide (now.localReading zone < t.localReading zone)) := by
  rw [isFuture, orderedWithNow_datetime _ (comparable_local ht h), Comparison.holds_gt]
  simp only [localReading_lt_iff]

theorem isPast_local (ht : t.offset = none) (h : now.offset.isSome → now.Reaches zone) :
    isPast zone (.datetime t) (.datetime now) =
      .ok (decide (t.localReading zone < now.localReading zone)) := by
  rw [isPast, orderedWithNow_datetime _ (comparable_local ht h), Comparison.holds_lt]
  simp only [localReading_lt_iff]

theorem isToday_local (ht : t.offset = none) (h : now.offset.isSome → now.Reaches zone) :
    isToday zone (.datetime t) (.datetime now) =
      .ok (decide (t.localDay zone = now.localDay zone)) := by
  have hday : t.DayShown zone now := by
    intro hsome
    rw [ht] at hsome
    cases hsome
  have hclock : t.dayClock zone now = offsetOfSeconds zone := by
    unfold dayClock
    rw [ht]
  rw [isToday_datetime (comparable_local ht h) hday, hclock]
  rfl

/-- A time and its date are of today alike iff the two clocks show the same day, or neither shows
that of the time. -/
theorem isToday_eq_date_iff (ht : t.offset = none) (h : now.offset.isSome → now.Reaches zone) :
    isToday zone (.datetime t) (.datetime now) = isToday zone (.date t.date) (.datetime now) ↔
      now.localDay zone = now.date.ordinal ∨
        (t.date.ordinal : Int) ≠ now.localDay zone ∧ t.date.ordinal ≠ now.date.ordinal := by
  have hday := localDay_eq_date ht zone
  rw [isToday_local ht h, isToday_date, Except.ok.injEq, decide_eq_decide, hday]
  omega

/-- A time follows its date into the future, whatever the time, iff the local clock shows no later
day than the clock of the current moment. -/
theorem isFuture_of_date_iff (h : now.offset.isSome → now.Reaches zone) :
    (∀ t : DateTime, t.offset = none → isFuture zone (.date t.date) (.datetime now) = .ok true →
        isFuture zone (.datetime t) (.datetime now) = .ok true) ↔
      now.localDay zone ≤ now.date.ordinal := by
  constructor
  · intro hall
    by_contra hlater
    -- The day after that of the current moment has begun on the local clock: its start is over.
    have hreading := inCalendar_localReading h
    have hstart : InCalendar ((now.date.ordinal + 1) * microsPerDay) := by
      unfold InCalendar localDay microsPerDay at *
      omega
    obtain ⟨t, hclock, ht⟩ := exists_clock hstart none
    have hlocal := localReading_eq_clock ht zone
    have hday := localDay_eq_date ht zone
    have hfuture := hall t ht
    rw [isFuture_date, isFuture_local ht h] at hfuture
    simp only [Except.ok.injEq, decide_eq_true_eq] at hfuture
    unfold localDay microsPerDay at *
    omega
  · intro hle t ht hdate
    have hday := localDay_eq_date ht zone
    rw [isFuture_date, Except.ok.injEq, decide_eq_true_eq] at hdate
    rw [isFuture_local ht h, Except.ok.injEq, decide_eq_true_eq]
    unfold localDay microsPerDay at *
    omega

/-- A time follows its date into the past, whatever the time, iff the local clock shows no earlier
day than the clock of the current moment. -/
theorem isPast_of_date_iff (h : now.offset.isSome → now.Reaches zone) :
    (∀ t : DateTime, t.offset = none → isPast zone (.date t.date) (.datetime now) = .ok true →
        isPast zone (.datetime t) (.datetime now) = .ok true) ↔
      now.date.ordinal ≤ now.localDay zone := by
  constructor
  · intro hall
    by_contra hearlier
    -- The day of the current moment has not begun on the local clock: the end of the one before is
    -- still to come.
    have hreading := inCalendar_localReading h
    have hnow := inCalendar_clock now
    have hown : now.date.ordinal = now.clock / microsPerDay := rfl
    have hend : InCalendar (now.date.ordinal * microsPerDay - 1) := by
      unfold InCalendar localDay microsPerDay at *
      omega
    obtain ⟨t, hclock, ht⟩ := exists_clock hend none
    have hlocal := localReading_eq_clock ht zone
    have hday := localDay_eq_date ht zone
    have hpast := hall t ht
    rw [isPast_date, isPast_local ht h] at hpast
    simp only [Except.ok.injEq, decide_eq_true_eq] at hpast
    unfold localDay microsPerDay at *
    omega
  · intro hle t ht hdate
    have hday := localDay_eq_date ht zone
    rw [isPast_date, Except.ok.injEq, decide_eq_true_eq] at hdate
    rw [isPast_local ht h, Except.ok.injEq, decide_eq_true_eq]
    unfold localDay microsPerDay at *
    omega

/-- Times without an offset and their dates, where the current moment has no offset either or can be
moved to the local clock: a time and its date are of today alike iff its own clock and the local one
show the same day, or neither shows that of the time. Times follow their dates into the future iff
the local clock shows no later day, and into the past iff it shows no earlier one. -/
theorem times_follow_dates_iff (h : now.offset.isSome → now.Reaches zone) :
    (∀ t : DateTime, t.offset = none →
      (isToday zone (.datetime t) (.datetime now) = isToday zone (.date t.date) (.datetime now) ↔
        now.localDay zone = now.date.ordinal ∨
          (t.date.ordinal : Int) ≠ now.localDay zone ∧ t.date.ordinal ≠ now.date.ordinal)) ∧
    ((∀ t : DateTime, t.offset = none → isFuture zone (.date t.date) (.datetime now) = .ok true →
        isFuture zone (.datetime t) (.datetime now) = .ok true) ↔
      now.localDay zone ≤ now.date.ordinal) ∧
    ((∀ t : DateTime, t.offset = none → isPast zone (.date t.date) (.datetime now) = .ok true →
        isPast zone (.datetime t) (.datetime now) = .ok true) ↔
      now.date.ordinal ≤ now.localDay zone) := by
  refine ⟨?_, isFuture_of_date_iff h, isPast_of_date_iff h⟩
  intro t ht
  exact isToday_eq_date_iff ht h

/-- On the last evening of 2024 the local clock, three hours ahead, shows the new year. The next
morning is not of today as its date is, and times of the new year do not follow their dates into the
future; times of the old year do follow theirs into the past. -/
theorem times_follow_dates_sample :
    (sampleEvening.offset.isSome → sampleEvening.Reaches 0) ∧
      isToday 0 (.datetime sampleMorning) (.datetime sampleEvening) ≠
        isToday 0 (.date sampleMorning.date) (.datetime sampleEvening) ∧
      (¬ ∀ t : DateTime, t.offset = none →
        isFuture 0 (.date t.date) (.datetime sampleEvening) = .ok true →
          isFuture 0 (.datetime t) (.datetime sampleEvening) = .ok true) ∧
      ∀ t : DateTime, t.offset = none →
        isPast 0 (.date t.date) (.datetime sampleEvening) = .ok true →
          isPast 0 (.datetime t) (.datetime sampleEvening) = .ok true := by
  have hreaches : sampleEvening.offset.isSome → sampleEvening.Reaches 0 := by
    intro _
    unfold Reaches Shown InCalendar
    decide
  obtain ⟨htoday, hfuture, hpast⟩ := times_follow_dates_iff hreaches
  refine ⟨hreaches, ?_, ?_, hpast.mpr (by decide)⟩
  · exact mt (htoday sampleMorning rfl).mp (by decide)
  · exact mt hfuture.mp (by decide)

/-- A time of the new year is of today, and its date is not. -/
theorem isToday_two_days :
    sampleMorning.offset = none ∧
      isToday 0 (.datetime sampleMorning) (.datetime sampleEvening) = .ok true ∧
      isToday 0 (.date sampleMorning.date) (.datetime sampleEvening) = .ok false :=
  ⟨rfl, rfl, rfl⟩

end Predicate

end Rulebook
