import ThreeAddress.Proofs.RegisterDemand
import ThreeAddress.Proofs.Transparency
import ThreeAddress.Proofs.Truncation

/-!
# The log replays the compilation

A log that shows everything tells what a compilation did: the instructions in their order, each load
right behind the request for its register, each operation right in front of the return of its right
operand, and requests and returns nested as brackets.  This holds up to the point where a
compilation fails.  Its last entry tells whether it failed, and if it did not, the counts that it
ends with are those of the log.
-/

namespace ThreeAddress

/-! ## Reading a log -/

namespace Event

/-- The number of registers in use that the event reports. -/
def live? : Event → Option Nat
  | acquired _ live | released _ live => some live
  | emitted .. | compiled .. | executed .. => none

/-- A register was acquired or released. -/
def ofPool (event : Event) : Bool :=
  event.live?.isSome

/-- A load was emitted. -/
def announcesLoad : Event → Bool
  | emitted (.load ..) => true
  | emitted (.operate ..) | acquired .. | released .. | compiled .. | executed .. => false

theorem filter_shownAt_trace (log : List Event) : log.filter (shownAt .trace) = log := by
  apply List.filter_eq_self.mpr
  intro event listed
  cases event <;> rfl

theorem message_of_emitted? {event : Event} {instr : Instr}
    (announces : event.emitted? = some instr) : event.message = "emit " ++ instr.text := by
  cases event with
  | emitted other =>
      cases announces
      rfl
  | acquired | released | compiled | executed => contradiction

theorem map_message_filter_emitted? (log : List Event) :
    (log.filter fun event => event.emitted?.isSome).map message =
      (log.filterMap emitted?).map fun instr => "emit " ++ instr.text := by
  induction log with
  | nil => rfl
  | cons event log ih =>
      cases announced : event.emitted? with
      | none =>
          rw [List.filter_cons_of_neg (by simp [announced]), List.filterMap_cons_none announced, ih]
      | some instr =>
          rw [List.filter_cons_of_pos (by simp [announced]), List.filterMap_cons_some announced,
            List.map_cons, List.map_cons, message_of_emitted? announced, ih]

end Event

/-- Every load directly follows the request for its target, and every operation is directly followed
by the return of its right operand. -/
structure Paired (log : List Event) : Prop where
  load {before after : List Event} {target : Register} {literal : Literal} :
    log = before ++ .emitted (.load target literal) :: after →
      ∃ earlier, before = earlier ++ [.acquired target (target.index + 1)]
  operate {before after : List Event} {target left right : Register} {operator : Operator} :
    log = before ++ .emitted (.operate target left operator right) :: after →
      ∃ later, after = .released right right.index :: later

/-- Requests and returns as brackets.  A bracket at some depth is the register of that number, and
its entries report the registers in use while it is open and after it is closed. -/
inductive WellNested : Nat → List Event → Prop where
  | nil (depth : Nat) : WellNested depth []
  | bracket {depth : Nat} {inner rest : List Event} (nested : WellNested (depth + 1) inner)
      (follows : WellNested depth rest) :
      WellNested depth
        (.acquired ⟨depth⟩ (depth + 1) :: (inner ++ .released ⟨depth⟩ depth :: rest))

/-! ## Neighbours -/

/-- An entry of two joined logs stands in one of them. -/
theorem append_eq_append_cons {first second before after : List Event} {event : Event}
    (split : first ++ second = before ++ event :: after) :
    (∃ between, first = before ++ event :: between ∧ after = between ++ second) ∨
      ∃ between, before = first ++ between ∧ second = between ++ event :: after := by
  rcases List.append_eq_append_iff.mp split with ⟨between, before_eq, second_eq⟩ |
      ⟨between, first_eq, cons_eq⟩
  · exact .inr ⟨between, before_eq, second_eq⟩
  · cases between with
    | nil => exact .inr ⟨[], by simp [first_eq], cons_eq.symm⟩
    | cons head between =>
        obtain ⟨rfl, after_eq⟩ := List.cons.inj cons_eq
        exact .inl ⟨between, first_eq, after_eq⟩

theorem pair_eq_append_cons {first second event : Event} {before after : List Event}
    (split : [first, second] = before ++ event :: after) :
    (before = [] ∧ event = first ∧ after = [second]) ∨
      (before = [first] ∧ event = second ∧ after = []) := by
  cases before with
  | nil =>
      cases split
      exact .inl ⟨rfl, rfl, rfl⟩
  | cons head before =>
      cases before with
      | nil =>
          cases split
          exact .inr ⟨rfl, rfl, rfl⟩
      | cons next before => simp at split

namespace Paired

/-- Without instructions there is nothing to pair. -/
theorem of_silent {log : List Event} (silent : ∀ event ∈ log, event.emitted? = none) :
    Paired log where
  load split := by
    have unsaid := silent _ (split ▸ List.mem_append_right _ List.mem_cons_self)
    contradiction
  operate split := by
    have unsaid := silent _ (split ▸ List.mem_append_right _ List.mem_cons_self)
    contradiction

theorem append {first second : List Event} (paired : Paired first) (others : Paired second) :
    Paired (first ++ second) where
  load split := by
    rcases append_eq_append_cons split with ⟨between, first_eq, -⟩ | ⟨between, rfl, second_eq⟩
    · exact paired.load first_eq
    · obtain ⟨earlier, rfl⟩ := others.load second_eq
      exact ⟨first ++ earlier, (List.append_assoc ..).symm⟩
  operate split := by
    rcases append_eq_append_cons split with ⟨between, first_eq, rfl⟩ | ⟨between, -, second_eq⟩
    · obtain ⟨later, rfl⟩ := paired.operate first_eq
      exact ⟨later ++ second, rfl⟩
    · exact others.operate second_eq

end Paired

theorem StackOp.paired_events (before : Nat) (op : StackOp) : Paired (op.events before) := by
  cases op with
  | push literal =>
      constructor
      · intro earlier later target other split
        rcases pair_eq_append_cons split with ⟨-, loaded, -⟩ | ⟨rfl, loaded, -⟩
        · contradiction
        · cases loaded
          exact ⟨[], rfl⟩
      · intro earlier later target left right operator split
        rcases pair_eq_append_cons split with ⟨-, operated, -⟩ | ⟨-, operated, -⟩
        · contradiction
        · cases operated
  | fold operator =>
      constructor
      · intro earlier later target other split
        rcases pair_eq_append_cons split with ⟨-, loaded, -⟩ | ⟨-, loaded, -⟩
        · cases loaded
        · contradiction
      · intro earlier later target left right other split
        rcases pair_eq_append_cons split with ⟨-, operated, rfl⟩ | ⟨-, operated, -⟩
        · cases operated
          exact ⟨[], rfl⟩
        · contradiction
  | drop =>
      apply Paired.of_silent
      simp [events, Event.emitted?]

theorem StackCode.paired_events (before : Nat) (code : StackCode) :
    Paired (code.events before) := by
  induction code generalizing before with
  | nil => exact Paired.of_silent (by simp [events])
  | cons op code ih => exact (op.paired_events before).append (ih _)

/-! ## Brackets -/

/-- The brackets open at a depth are closed, the innermost first. -/
def Closing : Nat → List Event → Prop
  | 0, word => WellNested 0 word
  | depth + 1, word =>
      ∃ inner rest, WellNested (depth + 1) inner ∧ Closing depth rest ∧
        word = inner ++ .released ⟨depth⟩ depth :: rest

namespace Closing

variable {depth : Nat} {word : List Event}

theorem released (closing : Closing depth word) :
    Closing (depth + 1) (.released ⟨depth⟩ depth :: word) :=
  ⟨[], word, .nil _, closing, rfl⟩

theorem acquired (closing : Closing (depth + 1) word) :
    Closing depth (.acquired ⟨depth⟩ (depth + 1) :: word) := by
  obtain ⟨inner, rest, nested, closing, rfl⟩ := closing
  cases depth with
  | zero => exact .bracket nested closing
  | succ depth =>
      -- The bracket comes in front of what stands inside the next open one.
      obtain ⟨others, outside, follows, closing, rfl⟩ := closing
      refine ⟨_, outside, .bracket nested follows, closing, ?_⟩
      simp

theorem exists_closing (depth : Nat) : ∃ word, Closing depth word := by
  induction depth with
  | zero => exact ⟨[], .nil 0⟩
  | succ depth ih =>
      obtain ⟨word, closing⟩ := ih
      exact ⟨_, closing.released⟩

end Closing

theorem StackOp.closing_events {before : Nat} {op : StackOp} {word : List Event}
    (allowed : op.Allowed before) (closing : Closing (op.depth before) word) :
    Closing before ((op.events before).filter Event.ofPool ++ word) := by
  cases op with
  | push literal => exact closing.acquired
  | fold operator =>
      obtain ⟨depth, rfl⟩ := Nat.exists_eq_add_of_le' (Nat.le_of_succ_le allowed)
      exact closing.released
  | drop =>
      obtain ⟨depth, rfl⟩ := Nat.exists_eq_add_of_le' allowed
      exact closing.released

/-- Requests and returns of disciplined code are nested in whatever closes the brackets that it
leaves open. -/
theorem StackCode.closing_events {before : Nat} {code : StackCode} {word : List Event}
    (disciplined : code.Disciplined before) (closing : Closing (code.depth before) word) :
    Closing before ((code.events before).filter Event.ofPool ++ word) := by
  induction code generalizing before with
  | nil => exact closing
  | cons op code ih =>
      rw [events, List.filter_append, List.append_assoc]
      exact StackOp.closing_events disciplined.1 (ih disciplined.2 closing)

/-! ## Counts -/

namespace StackCode

variable (before : Nat) (code : StackCode)

theorem filterMap_emitted?_events :
    (events before code).filterMap Event.emitted? = instrs before code := by
  induction code generalizing before with
  | nil => rfl
  | cons op code ih =>
      have first : (op.events before).filterMap Event.emitted? = op.instrs before := by
        cases op <;> rfl
      rw [events, List.filterMap_append, first, ih, instrs]

theorem countP_announcesLoad_events :
    (events before code).countP Event.announcesLoad = code.taken := by
  induction code generalizing before with
  | nil => rfl
  | cons op code ih =>
      have first : (op.events before).countP Event.announcesLoad = op.taken := by
        cases op <;> rfl
      rw [events, List.countP_append, first, ih, taken]

/-- The largest number in use that the events report. -/
theorem max_live?_events :
    max before (((events before code).filterMap Event.live?).foldr max 0) =
      max before (peak before code) := by
  induction code generalizing before with
  | nil => rfl
  | cons op code ih =>
      have first : (op.events before).filterMap Event.live? = [op.depth before] := by
        cases op <;> rfl
      rw [events, List.filterMap_append, first, List.singleton_append, List.foldr_cons, ih, peak]
      cases op with
      | push literal => rfl
      | fold operator =>
          simp only [StackOp.depth, StackOp.reach]
          omega
      | drop =>
          simp only [StackOp.depth, StackOp.reach]
          omega

theorem compiled_not_mem_events (stats : PoolStats) : .compiled stats ∉ events before code := by
  induction code generalizing before with
  | nil => simp [events]
  | cons op code ih =>
      have first : .compiled stats ∉ op.events before := by
        cases op <;> simp [StackOp.events]
      simp [events, first, ih]

end StackCode

/-! ## The events of a plan -/

namespace Plan

/-- What happens when a plan is executed on a pool that nothing was taken from. -/
def log (capacity : Nat) (plan : Plan) : List Event :=
  plan.code.events 0 ++
    match plan.result with
    | .ok _ => [.compiled (plan.code.onPool (.ofCapacity capacity)).stats]
    | .error _ => []

variable (capacity : Nat) (plan : Plan)

theorem filterMap_emitted?_log :
    (plan.log capacity).filterMap Event.emitted? = plan.code.instrs 0 := by
  rw [log, List.filterMap_append, StackCode.filterMap_emitted?_events]
  cases plan.result <;> exact List.append_nil _

theorem paired_log : Paired (plan.log capacity) := by
  apply (plan.code.paired_events 0).append
  apply Paired.of_silent
  cases plan.result <;> simp [Event.emitted?]

theorem filter_ofPool_log :
    (plan.log capacity).filter Event.ofPool = (plan.code.events 0).filter Event.ofPool := by
  rw [log, List.filter_append]
  cases plan.result <;> exact List.append_nil _

theorem countP_announcesLoad_log :
    (plan.log capacity).countP Event.announcesLoad = plan.code.taken := by
  rw [log, List.countP_append, StackCode.countP_announcesLoad_events]
  cases plan.result <;> rfl

theorem max_live?_log :
    ((plan.log capacity).filterMap Event.live?).foldr max 0 = plan.code.peak 0 := by
  have reported : (plan.log capacity).filterMap Event.live? =
      (plan.code.events 0).filterMap Event.live? := by
    rw [log, List.filterMap_append]
    cases plan.result <;> exact List.append_nil _
  have highest := plan.code.max_live?_events 0
  rw [Nat.zero_max, Nat.zero_max] at highest
  rw [reported, highest]

theorem getLast?_log_eq_compiled_iff {stats : PoolStats} :
    (plan.log capacity).getLast? = some (.compiled stats) ↔
      plan.result = .ok () ∧ stats = (plan.code.onPool (.ofCapacity capacity)).stats := by
  cases ending : plan.result with
  | ok value => simp [log, ending, eq_comm]
  | error cause =>
      have unsaid := plan.code.compiled_not_mem_events 0 stats
      simp only [log, ending, List.append_nil, reduceCtorEq, false_and, iff_false]
      intro last
      exact unsaid (List.mem_of_getLast? last)

/-- Code that ends well has given all its registers back. -/
theorem depth_ofSource {source : String} (ends : (ofSource source).result = .ok ()) :
    (ofSource source).code.depth 0 = 0 := by
  have stopped := ofScans_stop 0 .boundary (Lexer.ofString source).exists_isLast_upcoming
  apply stopped.1
  rw [← ofSource, ends]
  trivial

theorem limited_of_ok {plan : Plan} {capacity before : Nat}
    (ends : (plan.limited capacity before).result = .ok ()) :
    plan.limited capacity before = plan := by
  apply limited_of_fits
  simp only [limited] at ends
  split at ends
  · assumption
  · contradiction

end Plan

/-- A compilation records the events of the limited plan. -/
theorem compileInto_events {σ : Type} [Sink σ] {sink : σ} (unfailing : Sink.Unfailing sink)
    {source : String} {options : Options} (valid : options.validate = .ok ()) :
    (compileInto source options sink).1.events.toList =
      ((Plan.ofSource source).limited options.registers 0).log options.registers := by
  rw [compileInto_eq sink valid,
    Workbench.execute_limited _ unfailing _ (Plan.disciplined_ofSource source _)]
  simp only [Pool.ofCapacity, Plan.log]
  cases ((Plan.ofSource source).limited options.registers 0).result with
  | ok value => simp [Workbench.conclude, Workbench.after]
  | error cause => simp [Workbench.conclude, Workbench.after]

/-- With a sink that refuses nothing, and a log that shows everything: the messages about
instructions are the lines that were emitted, and these instructions are what the sink received.
Loads and operations are paired with the requests and returns of their registers, which are nested
as brackets up to where the compilation ended.  It ended well if and only if the last entry says so.
Then all brackets are closed, and the statistics are the number of loads and the largest number of
registers in use of the whole log. -/
theorem compileInto_log_replays {σ : Type} [Sink σ] {sink : σ} (unfailing : Sink.Unfailing sink)
    (source : String) {options : Options} (atLeast : 1 ≤ options.registers)
    (atMost : options.registers ≤ 10) :
    let outcome := (compileInto source options sink).1
    let listed := (compileInto source options Listing.empty).2.instrs.toList
    let log := outcome.events.toList.filter (Event.shownAt .trace)
    let requests := log.filter Event.ofPool
    ((log.filter fun event => event.emitted?.isSome).map Event.message =
      listed.map fun instr => "emit " ++ instr.text) ∧
    listed.forM Sink.emit sink = .ok () (compileInto source options sink).2 ∧
    Paired log ∧
    (∃ word, requests <+: word ∧ WellNested 0 word) ∧
    (outcome.result = .ok () ↔ ∃ stats, log.getLast? = some (.compiled stats)) ∧
    ∀ stats, log.getLast? = some (.compiled stats) →
      WellNested 0 requests ∧
      stats.acquired = log.countP Event.announcesLoad ∧
      stats.released = log.countP Event.announcesLoad ∧
      stats.peak = (log.filterMap Event.live?).foldr max 0 := by
  have valid := Options.validate_eq_ok_iff.mpr ⟨atLeast, atMost⟩
  have disciplined := Plan.disciplined_ofSource source 0
  obtain ⟨result_eq, filled_eq⟩ := @compileInto_limited _ _ _ unfailing source options valid
  have events_eq := @compileInto_events _ _ _ unfailing source options valid
  have listed_eq := @compileInto_listing source options valid
  simp only [Event.filter_shownAt_trace, events_eq, result_eq, filled_eq, listed_eq]
  refine ⟨?_, unfailing.forM_emit _, Plan.paired_log .., ?_, ?_, ?_⟩
  · rw [Event.map_message_filter_emitted?, Plan.filterMap_emitted?_log]
  · obtain ⟨word, closing⟩ := Closing.exists_closing
      (((Plan.ofSource source).limited options.registers 0).code.depth 0)
    rw [Plan.filter_ofPool_log]
    exact ⟨_, List.prefix_append _ word,
      StackCode.closing_events (disciplined.within options.registers) closing⟩
  · simp [Plan.getLast?_log_eq_compiled_iff]
  · intro stats last
    obtain ⟨ends, stats_eq⟩ := (Plan.getLast?_log_eq_compiled_iff ..).mp last
    have whole := Plan.limited_of_ok ends
    rw [whole] at ends stats_eq ⊢
    have height := Plan.depth_ofSource ends
    have balanced := StackCode.depth_add_returned disciplined
    rw [stats_eq, StackCode.onPool_stats, Plan.countP_announcesLoad_log, Plan.max_live?_log,
      Plan.filter_ofPool_log]
    refine ⟨?_, Nat.zero_add _, ?_, Nat.zero_max _⟩
    · have closing : Closing ((Plan.ofSource source).code.depth 0) [] := by
        rw [height]
        exact .nil 0
      have closed := StackCode.closing_events disciplined closing
      rwa [List.append_nil] at closed
    · rw [height, Nat.zero_add, Nat.zero_add] at balanced
      exact (Nat.zero_add _).trans balanced

theorem compileInto_log_replays_sample :
    Sink.Unfailing Listing.empty ∧ 1 ≤ 3 ∧ 3 ≤ 10 ∧
      let log := (compileInto "7; 2 + 1.5*4;" ⟨3⟩ Listing.empty).1.events.toList.filter
        (Event.shownAt .trace)
      log.map Event.message =
        ["acquire t0 (1 live)", "emit t0 = 7", "release t0 (0 live)",
          "acquire t0 (1 live)", "emit t0 = 2", "acquire t1 (2 live)", "emit t1 = 1.5",
          "acquire t2 (3 live)", "emit t2 = 4", "emit t1 = t1 * t2", "release t2 (2 live)",
          "emit t0 = t0 + t1", "release t1 (1 live)", "release t0 (0 live)",
          "statements compiled, PoolStats \x7b acquired: 4, released: 4, peak: 3 \x7d"] ∧
      Paired log ∧ WellNested 0 (log.filter Event.ofPool) ∧
      log.countP Event.announcesLoad = 4 ∧ (log.filterMap Event.live?).foldr max 0 = 3 := by
  have events_eq : (compileInto "7; 2 + 1.5*4;" ⟨3⟩ Listing.empty).1.events.toList.filter
      (Event.shownAt .trace) =
      Grammar.sample.stackCode.events 0 ++ [.compiled ⟨4, 4, 3⟩] := by
    rw [Event.filter_shownAt_trace, compileInto_events Listing.empty.unfailing rfl,
      Plan.ofSource_eq Grammar.derives_sample, Plan.limited_of_fits (by decide)]
    rfl
  obtain ⟨-, -, paired, -, -, counted⟩ := @compileInto_log_replays _ _ _ Listing.empty.unfailing
    "7; 2 + 1.5*4;" ⟨3⟩ (by decide) (by decide)
  rw [events_eq] at paired counted ⊢
  obtain ⟨nested, acquired_eq, -, peak_eq⟩ := counted ⟨4, 4, 3⟩ (by simp)
  exact ⟨Listing.empty.unfailing, by decide, by decide, by decide +kernel, paired, nested,
    acquired_eq.symm, peak_eq.symm⟩

end ThreeAddress
