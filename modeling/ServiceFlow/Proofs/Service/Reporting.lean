import Mathlib.Data.List.Chain
import Mathlib.Data.List.Infix
import Mathlib.Tactic.Ring
import ServiceFlow.Service.Policy

/-!
# Regular reports come regularly

The executions of a service are counted from its start on. A report of frequency `n` is due after those whose
number is a multiple of `n`, so a change of a frequency does not start the count anew: where the next report
falls depends on all the executions before.

* `Call`, `run`: what is done to a policy, call after call. `dues` lists what each execution of a sequence of
  calls triggers, with the number of the execution.
* `Regular`: the reports that have a frequency. All that is said of one of them holds whatever becomes of the
  frequency of the other.
* `stays_iff`: a frequency stays as it is unless a call sets it to something else.
* `dueNumbers_eq`: while a frequency stays as it is, the executions that are due are the multiples of it.
* `reports_regular`: how many there are and how they follow each other.
-/

namespace ServiceFlow

namespace ReportPolicy

/-! ## Calls -/

/-- What is done to a policy. -/
inductive Call where
  | setDoneEvery (every : UInt32)
  | setDataEvery (every : UInt32)
  | recordExecution
deriving DecidableEq, Repr

/-- A call is made. -/
def step (p : ReportPolicy) : Call → ReportPolicy
  | .setDoneEvery every => p.setDoneEvery every
  | .setDataEvery every => p.setDataEvery every
  | .recordExecution => p.recordExecution.1

/-- Calls are made one after the other. -/
def run (p : ReportPolicy) (calls : List Call) : ReportPolicy := calls.foldl step p

theorem run_append (p : ReportPolicy) (earlier later : List Call) :
    p.run (earlier ++ later) = (p.run earlier).run later := List.foldl_append

/-- What the executions among the calls trigger, each with its number. -/
def dues (p : ReportPolicy) : List Call → List (Nat × Due)
  | [] => []
  | .recordExecution :: calls =>
    (p.recordExecution.1.executions.toNat, p.recordExecution.2) :: dues p.recordExecution.1 calls
  | call :: calls => dues (p.step call) calls

/-- The executions among the calls. -/
def executionsIn (calls : List Call) : Nat := calls.count .recordExecution

theorem executionsIn_record (calls : List Call) :
    executionsIn (.recordExecution :: calls) = executionsIn calls + 1 := List.count_cons_self

/-- The reports that come at a frequency. -/
inductive Regular where
  | done
  | data
deriving DecidableEq, Repr

/-- The frequency of a report. -/
def every (p : ReportPolicy) : Regular → UInt32
  | .done => p.doneEvery
  | .data => p.dataEvery

/-- The report is due. -/
def Due.has (d : Due) : Regular → Bool
  | .done => d.done
  | .data => d.data

/-- The numbers of the executions among the calls after which the report is due. -/
def dueNumbers (report : Regular) (p : ReportPolicy) (calls : List Call) : List Nat :=
  ((p.dues calls).filter (·.2.has report)).map (·.1)

/-- The frequency of the report is `n` at the start and after each of the calls. -/
def Stays (report : Regular) (n : UInt32) (p : ReportPolicy) (calls : List Call) : Prop :=
  ∀ made, made <+: calls → (p.run made).every report = n

instance (report : Regular) (n : UInt32) (p : ReportPolicy) (calls : List Call) :
    Decidable (Stays report n p calls) :=
  decidable_of_iff (∀ made ∈ calls.inits, (p.run made).every report = n) <| by
    simp only [List.mem_inits, Stays]

variable {report : Regular} {n : UInt32} {p : ReportPolicy} {call : Call} {calls : List Call}

theorem Stays.now (h : Stays report n p calls) : p.every report = n := h [] List.nil_prefix

theorem Stays.next (h : Stays report n p (call :: calls)) : Stays report n (p.step call) calls :=
  fun made hmade => h (call :: made) (List.cons_prefix_cons.mpr ⟨rfl, hmade⟩)

/-! ## Frequencies -/

/-- The frequency of the report that is done is what it was set to. That of the other stays as it is. -/
theorem every_setDoneEvery (p : ReportPolicy) (m : UInt32) :
    (p.setDoneEvery m).every .done = m ∧ (p.setDoneEvery m).every .data = p.every .data := ⟨rfl, rfl⟩

/-- The frequency of the report of data is what it was set to. That of the other stays as it is. -/
theorem every_setDataEvery (p : ReportPolicy) (m : UInt32) :
    (p.setDataEvery m).every .data = m ∧ (p.setDataEvery m).every .done = p.every .done := ⟨rfl, rfl⟩

/-- The call that sets the frequency of a report. -/
def Regular.set : Regular → UInt32 → Call
  | .done => .setDoneEvery
  | .data => .setDataEvery

theorem Regular.set_inj {k m : UInt32} (h : report.set k = report.set m) : k = m := by
  cases report with
  | done => exact Call.setDoneEvery.inj h
  | data => exact Call.setDataEvery.inj h

theorem every_set (p : ReportPolicy) (report : Regular) (m : UInt32) :
    (p.step (report.set m)).every report = m := by
  cases report with
  | done => exact (every_setDoneEvery p m).1
  | data => exact (every_setDataEvery p m).1

/-- No other call changes the frequency. -/
theorem every_step (h : ∀ m, call ≠ report.set m) : (p.step call).every report = p.every report := by
  cases call with
  | recordExecution => cases report <;> rfl
  | setDoneEvery m =>
    cases report with
    | done => exact absurd rfl (h m)
    | data => exact (every_setDoneEvery p m).2
  | setDataEvery m =>
    cases report with
    | done => exact (every_setDataEvery p m).2
    | data => exact absurd rfl (h m)

theorem stays_cons_iff :
    Stays report n p (call :: calls) ↔ p.every report = n ∧ Stays report n (p.step call) calls := by
  refine ⟨fun h => ⟨h.now, h.next⟩, fun ⟨hnow, hnext⟩ made hmade => ?_⟩
  cases made with
  | nil => exact hnow
  | cons first made =>
    obtain ⟨rfl, hrest⟩ := List.cons_prefix_cons.mp hmade
    exact hnext made hrest

/-- **A frequency stays** as long as it is set to nothing else. -/
theorem stays_iff :
    Stays report n p calls ↔ p.every report = n ∧ ∀ m, report.set m ∈ calls → m = n := by
  induction calls generalizing p with
  | nil =>
    refine ⟨fun h => ⟨h.now, nofun⟩, fun h made hmade => ?_⟩
    rw [List.prefix_nil.mp hmade]
    exact h.1
  | cons call calls ih =>
    rw [stays_cons_iff, ih]
    refine and_congr_right fun hnow => ?_
    by_cases hset : ∃ m, call = report.set m
    · obtain ⟨m, rfl⟩ := hset
      rw [every_set]
      constructor
      · rintro ⟨rfl, hrest⟩ k hk
        exact (List.mem_cons.mp hk).elim Regular.set_inj (hrest k)
      · intro hall
        exact ⟨hall m List.mem_cons_self, fun k hk => hall k (List.mem_cons_of_mem _ hk)⟩
    · have hother (m : UInt32) : report.set m ≠ call := fun heq => hset ⟨m, heq.symm⟩
      rw [every_step fun m => (hother m).symm, and_iff_right hnow]
      exact forall_congr' fun m => by rw [List.mem_cons, or_iff_right (hother m)]

/-! ## One execution -/

theorem isDue_iff (every : UInt32) (count : UInt64) :
    isDue every count = true ↔ every ≠ 0 ∧ every.toNat ∣ count.toNat := by
  have hpos : 0 < every ↔ every ≠ 0 := UInt32.pos_iff_ne_zero
  have hmod : count % every.toUInt64 = 0 ↔ every.toNat ∣ count.toNat := by
    rw [← UInt64.toNat_inj, UInt64.toNat_mod, UInt32.toNat_toUInt64, Nat.dvd_iff_mod_eq_zero]
    rfl
  rw [isDue, Bool.and_eq_true, decide_eq_true_eq, beq_iff_eq, hpos, hmod]

/-- An execution has the next number, unless there have been as many as can be counted. -/
theorem executions_record (h : p.executions.toNat + 1 < 2 ^ 64) :
    p.recordExecution.1.executions.toNat = p.executions.toNat + 1 := by
  change (p.executions + 1).toNat = _
  rw [UInt64.toNat_add]
  exact Nat.mod_eq_of_lt h

/-- A report is due if the number of the execution is a multiple of its frequency, whatever the other
frequency is. -/
theorem has_record (report : Regular) (h : p.executions.toNat + 1 < 2 ^ 64) :
    p.recordExecution.2.has report = true ↔ (p.every report).toNat ∣ p.executions.toNat + 1 := by
  have hdue : p.recordExecution.2.has report = isDue (p.every report) (p.executions + 1) := by
    cases report <;> rfl
  have hnumber : (p.executions + 1).toNat = p.executions.toNat + 1 := executions_record h
  rw [hdue, isDue_iff, hnumber, and_iff_right_iff_imp]
  intro hdvd h0
  rw [h0] at hdvd
  exact absurd (Nat.zero_dvd.mp hdvd) (Nat.succ_ne_zero _)

/-! ## Multiples -/

/-- The multiples of `n` above `c` and up to `m`. -/
def multiples (n c m : Nat) : List Nat := List.range' ((c / n + 1) * n) (m / n - c / n) n

theorem mem_multiples {n c m i : Nat} : i ∈ multiples n c m ↔ c < i ∧ i ≤ m ∧ n ∣ i := by
  rcases Nat.eq_zero_or_pos n with rfl | hn
  · simp only [multiples, Nat.div_zero, Nat.sub_self, List.range'_zero, List.not_mem_nil, false_iff,
      Nat.zero_dvd]
    rintro ⟨hlow, -, rfl⟩
    exact absurd hlow (Nat.not_lt_zero c)
  · rw [multiples, List.mem_range']
    constructor
    · rintro ⟨j, hj, rfl⟩
      have hi : (c / n + 1) * n + n * j = (c / n + 1 + j) * n := by ring
      rw [hi, ← Nat.div_lt_iff_lt_mul hn, ← Nat.le_div_iff_mul_le hn]
      exact ⟨by omega, by omega, Nat.dvd_mul_left n _⟩
    · rintro ⟨hlow, hhigh, t, rfl⟩
      rw [Nat.mul_comm] at hlow hhigh
      rw [← Nat.div_lt_iff_lt_mul hn] at hlow
      rw [← Nat.le_div_iff_mul_le hn] at hhigh
      obtain ⟨j, rfl⟩ : ∃ j, t = c / n + 1 + j := Nat.exists_eq_add_of_le hlow
      exact ⟨j, by omega, by ring⟩

/-- The next number is the first of the multiples, or they are those above it. -/
theorem multiples_succ {n c m : Nat} (h : c < m) :
    multiples n c m = (if n ∣ c + 1 then [c + 1] else []) ++ multiples n (c + 1) m := by
  by_cases hdvd : n ∣ c + 1
  · have hdiv : (c + 1) / n = c / n + 1 := by rw [Nat.succ_div, if_pos hdvd]
    have hfirst : (c / n + 1) * n = c + 1 := by rw [← hdiv, Nat.div_mul_cancel hdvd]
    have hle : c / n + 1 ≤ m / n := hdiv ▸ Nat.div_le_div_right h
    have hcount : m / n - c / n = m / n - (c / n + 1) + 1 := by omega
    rw [if_pos hdvd, multiples, multiples, hdiv, hcount, List.range'_succ, Nat.succ_mul (c / n + 1),
      hfirst, List.singleton_append]
  · have hdiv : (c + 1) / n = c / n := by rw [Nat.succ_div, if_neg hdvd, Nat.add_zero]
    rw [if_neg hdvd, multiples, multiples, hdiv, List.nil_append]

/-! ## Stretches -/

/-- Every execution is counted, and nothing else is. -/
theorem executions_run (p : ReportPolicy) (calls : List Call)
    (hfew : p.executions.toNat + executionsIn calls < 2 ^ 64) :
    (p.run calls).executions.toNat = p.executions.toNat + executionsIn calls := by
  induction calls generalizing p with
  | nil => rfl
  | cons call calls ih =>
    cases call with
    | setDoneEvery every => exact ih (p.setDoneEvery every) hfew
    | setDataEvery every => exact ih (p.setDataEvery every) hfew
    | recordExecution =>
      rw [executionsIn_record] at hfew ⊢
      have hone : p.recordExecution.1.executions.toNat = p.executions.toNat + 1 :=
        executions_record (by omega)
      have hrest := ih p.recordExecution.1 (by omega)
      exact hrest.trans (by omega)

/-- **While a frequency stays as it is**, the executions that are due are the multiples of it. -/
theorem dueNumbers_eq (hfew : p.executions.toNat + executionsIn calls < 2 ^ 64)
    (hstays : Stays report n p calls) :
    dueNumbers report p calls =
      multiples n.toNat p.executions.toNat (p.executions.toNat + executionsIn calls) := by
  induction calls generalizing p with
  | nil =>
    rw [executionsIn, List.count_nil, Nat.add_zero, multiples, Nat.sub_self]
    rfl
  | cons call calls ih =>
    cases call with
    | setDoneEvery every => exact ih (p := p.setDoneEvery every) hfew hstays.next
    | setDataEvery every => exact ih (p := p.setDataEvery every) hfew hstays.next
    | recordExecution =>
      rw [executionsIn_record] at hfew ⊢
      have hone : p.recordExecution.1.executions.toNat = p.executions.toNat + 1 :=
        executions_record (by omega)
      -- the count and the frequency are all that the rest of the stretch takes over
      have hrest := ih (p := p.recordExecution.1) (by omega) hstays.next
      have hdue := has_record report (p := p) (by omega)
      rw [hone, Nat.add_right_comm, Nat.add_assoc] at hrest
      rw [hstays.now] at hdue
      rw [multiples_succ (by omega), ← hrest, dueNumbers, dues, List.filter_cons, hone]
      by_cases hdvd : n.toNat ∣ p.executions.toNat + 1
      · rw [if_pos hdvd, if_pos (hdue.mpr hdvd)]
        rfl
      · rw [if_neg hdvd, if_neg fun hhas => hdvd (hdue.mp hhas)]
        rfl

/-- **Regular reports.** After whatever calls there have been, let the frequency of a report stay `n` while
others are made, and the count of executions go from `c` to `c + k` meanwhile. The executions that are due are
those whose number is a multiple of `n`: there are `(c + k) / n - c / n` of them, each `n` after the one
before; for `n = 0` there are none. What becomes of the frequency of the other report does not matter. -/
theorem reports_regular (earlier stretch : List Call) (report : Regular) (n : UInt32) {c k : Nat}
    (hc : executionsIn earlier = c) (hk : executionsIn stretch = k) (hfew : c + k < 2 ^ 64)
    (hstays : Stays report n (off.run earlier) stretch) :
    (off.run earlier).executions.toNat = c ∧
      (off.run (earlier ++ stretch)).executions.toNat = c + k ∧
      (dueNumbers report (off.run earlier) stretch).length = (c + k) / n.toNat - c / n.toNat ∧
      (dueNumbers report (off.run earlier) stretch).IsChain (fun i j => j = i + n.toNat) ∧
      (∀ i, i ∈ dueNumbers report (off.run earlier) stretch ↔ c < i ∧ i ≤ c + k ∧ n.toNat ∣ i) ∧
      (n = 0 → dueNumbers report (off.run earlier) stretch = []) := by
  have hstart : (off.run earlier).executions.toNat = c := by
    have hrun := executions_run off earlier
    rw [hc, show off.executions.toNat = 0 from rfl, Nat.zero_add] at hrun
    exact hrun (by omega)
  have hend : (off.run (earlier ++ stretch)).executions.toNat = c + k := by
    have hrun := executions_run (off.run earlier) stretch
    rw [hstart, hk] at hrun
    rw [run_append, hrun hfew]
  have hdue := dueNumbers_eq (by rw [hstart, hk]; exact hfew) hstays
  rw [hstart, hk] at hdue
  rw [hdue]
  refine ⟨hstart, hend, List.length_range', List.isChain_range' .., fun _ => mem_multiples, ?_⟩
  rintro rfl
  rw [multiples, show (0 : UInt32).toNat = 0 from rfl, Nat.div_zero, Nat.div_zero]
  rfl

/-- Two executions before the stretch, and five in it, in which the other frequency changes twice. -/
def sampleEarlier : List Call :=
  [.setDoneEvery 3, .recordExecution, .recordExecution, .setDataEvery 2]

def sampleStretch : List Call :=
  [.recordExecution, .setDataEvery 1, .recordExecution, .recordExecution, .setDataEvery 0,
    .recordExecution, .setDoneEvery 3, .recordExecution]

/-- Four executions in which the frequency of the data is set again, to what it is. -/
def sampleDataStretch : List Call :=
  [.recordExecution, .setDoneEvery 0, .recordExecution, .setDataEvery 2, .recordExecution,
    .recordExecution]

/-- The third execution and the sixth are reported as done, and the data of the fourth and the sixth is
reported; the data of none is reported where that is off. -/
theorem sampleStretch_regular :
    Stays .done 3 (off.run sampleEarlier) sampleStretch ∧
      (off.run (sampleEarlier ++ sampleStretch)).executions.toNat = 2 + 5 ∧
      (dueNumbers .done (off.run sampleEarlier) sampleStretch).length = 7 / 3 - 2 / 3 ∧
      3 ∈ dueNumbers .done (off.run sampleEarlier) sampleStretch ∧
      6 ∈ dueNumbers .done (off.run sampleEarlier) sampleStretch ∧
      Stays .data 2 (off.run sampleEarlier) sampleDataStretch ∧
      (dueNumbers .data (off.run sampleEarlier) sampleDataStretch).length = 6 / 2 - 2 / 2 ∧
      4 ∈ dueNumbers .data (off.run sampleEarlier) sampleDataStretch ∧
      6 ∈ dueNumbers .data (off.run sampleEarlier) sampleDataStretch ∧
      dueNumbers .data (off.run []) [.setDoneEvery 1, .recordExecution] = [] := by
  have hdone : Stays .done 3 (off.run sampleEarlier) sampleStretch := by decide +kernel
  have hdata : Stays .data 2 (off.run sampleEarlier) sampleDataStretch := by decide +kernel
  obtain ⟨-, hend, hlength, -, hmem, -⟩ :=
    reports_regular sampleEarlier sampleStretch .done 3 (c := 2) (k := 5) (by decide) (by decide)
      (by decide) hdone
  obtain ⟨-, -, hlength', -, hmem', -⟩ :=
    reports_regular sampleEarlier sampleDataStretch .data 2 (c := 2) (k := 4) (by decide)
      (by decide) (by decide) hdata
  obtain ⟨-, -, -, -, -, hoff⟩ :=
    reports_regular [] [.setDoneEvery 1, .recordExecution] .data 0 (c := 0) (k := 1) rfl (by decide)
      (by decide) (by decide +kernel)
  exact ⟨hdone, hend, hlength, (hmem 3).mpr (by decide), (hmem 6).mpr (by decide), hdata, hlength',
    (hmem' 4).mpr (by decide), (hmem' 6).mpr (by decide), hoff rfl⟩

end ReportPolicy

end ServiceFlow
