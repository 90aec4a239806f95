import ThreeAddress.Generator.Basic

/-!
# Instructions on their way to the sink

Every instruction is announced by an event before the sink is asked to take it.  The events of a
computation therefore say what the sink was handed, and together with the sink at the start they
determine what it answered.  So it can be told whether an error is one that the sink returned, also
if the sink returns errors that look like those of the lexer or the pool.
-/

namespace ThreeAddress

/-- The instruction that the event announces. -/
def Event.emitted? : Event → Option Instr
  | emitted instr => some instr
  | acquired .. | released .. | compiled .. | executed .. => none

namespace Sink

variable {σ : Type} [Sink σ]

/-- Since then, the sink took all instructions that were announced. -/
def Accepted (before after : Logged σ) : Prop :=
  ∃ log, after.events.toList = before.events.toList ++ log ∧
    (log.filterMap Event.emitted?).forM Sink.emit before.state = .ok () after.state

/-- Since then, the sink took all instructions but the last, and it answered that one with the
error.  Nothing happened afterwards. -/
def Answered (before : Logged σ) (cause : Error) (after : Logged σ) : Prop :=
  ∃ between instr, Accepted before between ∧
    after.events = between.events.push (.emitted instr) ∧
    Sink.emit instr between.state = .error cause after.state

namespace Accepted

variable {before between after : Logged σ} {sink next : σ} {events : Array Event} {instr : Instr}
variable {cause : Error}

theorem refl (before : Logged σ) : Accepted before before :=
  ⟨[], (List.append_nil _).symm, rfl⟩

theorem trans (first : Accepted before between) (second : Accepted between after) :
    Accepted before after := by
  obtain ⟨log, events_eq, taken⟩ := first
  obtain ⟨more, more_eq, others⟩ := second
  refine ⟨log ++ more, ?_, ?_⟩
  · rw [more_eq, events_eq, List.append_assoc]
  · rw [List.forM_eq_forM] at taken others
    simp only [List.filterMap_append, List.forM_eq_forM, List.forM_append, bind, EStateM.bind,
      taken, others]

/-- An event that announces no instruction does not concern the sink. -/
theorem of_silent (sink : σ) (events : Array Event) {event : Event}
    (silent : event.emitted? = none) : Accepted ⟨sink, events⟩ ⟨sink, events.push event⟩ := by
  refine ⟨[event], Array.toList_push, ?_⟩
  rw [List.filterMap_cons_none silent]
  rfl

theorem of_emit (events : Array Event) (taken : Sink.emit instr sink = .ok () next) :
    Accepted ⟨sink, events⟩ ⟨next, events.push (.emitted instr)⟩ := by
  refine ⟨[.emitted instr], Array.toList_push, ?_⟩
  simp [Event.emitted?, bind, EStateM.bind, taken, pure, EStateM.pure]

/-- The events tell whether the last answer of the sink was an error. -/
theorem not_answered (accepted : Accepted before after) : ¬ Answered before cause after := by
  rintro ⟨between, instr, ⟨log, log_eq, others⟩, events_eq, refused⟩
  obtain ⟨all, all_eq, taken⟩ := accepted
  rw [events_eq, Array.toList_push, log_eq, List.append_assoc, List.append_cancel_left_eq] at all_eq
  rw [List.forM_eq_forM] at others taken
  simp [← all_eq, List.filterMap_append, Event.emitted?, bind, EStateM.bind, others, refused]
    at taken

theorem answered (accepted : Accepted before between) (refused : Answered between cause after) :
    Answered before cause after := by
  obtain ⟨last, instr, others, events_eq, emitted⟩ := refused
  exact ⟨last, instr, accepted.trans others, events_eq, emitted⟩

end Accepted

theorem Answered.of_emit {sink next : σ} (events : Array Event) {instr : Instr} {cause : Error}
    (refused : Sink.emit instr sink = .error cause next) :
    Answered ⟨sink, events⟩ cause ⟨next, events.push (.emitted instr)⟩ :=
  ⟨⟨sink, events⟩, instr, .refl _, rfl, refused⟩

end Sink

/-- The sink of a generator and the events so far. -/
def Generator.output {σ : Type} (generator : Generator σ) : Logged σ :=
  ⟨generator.sink, generator.events⟩

end ThreeAddress
