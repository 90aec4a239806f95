import ThreeAddress.Proofs.Exhaustion
import ThreeAddress.Proofs.Transparency

/-!
# Every sink is handed the same instructions

What a compilation emits is decided without a look at the sink.  A compilation into any sink is the
listing of that compilation, handed to the sink one instruction after the other, up to the first
that the sink refuses.  Nothing is assumed of the sink.  For a writer with a limit, handing over
the lines is writing their text at once, so the limit cuts the text wherever it falls.
-/

namespace ThreeAddress

/-! ## Delivering instructions -/

namespace Sink

variable {σ : Type} [Sink σ]

/-- Hand instructions to a sink.  The result is the given one unless the sink refuses one. -/
def deliver (instrs : List Instr) (result : Except Error Unit) (sink : σ) :
    Except Error Unit × σ :=
  match instrs.forM Sink.emit sink with
  | .ok _ after => (result, after)
  | .error cause after => (.error cause, after)

variable {first second : List Instr} {result : Except Error Unit} {sink between : σ}

theorem deliver_append_of_ok (accepted : first.forM Sink.emit sink = .ok () between) :
    deliver (first ++ second) result sink = deliver second result between := by
  rw [List.forM_eq_forM] at accepted
  simp only [deliver, List.forM_eq_forM, List.forM_append, bind, EStateM.bind, accepted]

theorem deliver_append_of_error {cause : Error}
    (refused : first.forM Sink.emit sink = .error cause between) :
    deliver (first ++ second) result sink = (.error cause, between) := by
  rw [List.forM_eq_forM] at refused
  simp only [deliver, List.forM_eq_forM, List.forM_append, bind, EStateM.bind, refused]

theorem Unfailing.deliver_eq (unfailing : Unfailing sink) (instrs : List Instr)
    (result : Except Error Unit) :
    deliver instrs result sink = (result, instrs.foldl Sink.receive sink) := by
  simp only [deliver, unfailing.forM_emit]

end Sink

/-! ## Executing a plan on any sink -/

namespace Workbench

variable {σ : Type} [Sink σ]

/-- The result of code generation, and the sink that it leaves. -/
def report : EStateM.Result Error (Workbench σ) Unit → Except Error Unit × σ
  | .ok _ bench => (.ok (), bench.sink)
  | .error cause bench => (.error cause, bench.sink)

/-- An operation that finds its operands and room in the pool hands its instructions to the sink,
and fails only if the sink refuses one. -/
theorem perform_delivers (bench : Workbench σ) {op : StackOp}
    (allowed : op.Allowed bench.pool.inUse)
    (room : op.reach bench.pool.inUse ≤ bench.pool.capacity) :
    (∃ after, perform op bench = .ok () after ∧ after.pool = op.onPool bench.pool ∧
      (op.instrs bench.pool.inUse).forM Sink.emit bench.sink = .ok () after.sink) ∨
    ∃ cause after, perform op bench = .error cause after ∧
      (op.instrs bench.pool.inUse).forM Sink.emit bench.sink = .error cause after.sink := by
  cases op with
  | push literal =>
      simp only [perform, push, bind, EStateM.bind, acquire_eq room, emit, StackOp.instrs,
        List.forM, pure, EStateM.pure]
      cases Sink.emit (.load ⟨bench.pool.inUse⟩ literal) bench.sink with
      | ok value sink => exact .inl ⟨_, rfl, rfl, rfl⟩
      | error cause sink => exact .inr ⟨cause, _, rfl, rfl⟩
  | fold operator =>
      have live : 1 ≤ bench.pool.inUse := Nat.le_of_succ_le allowed
      simp only [perform, fold, bind, EStateM.bind, emit, StackOp.instrs, List.forM, release,
        pure, EStateM.pure]
      cases Sink.emit (.operate ⟨bench.pool.inUse - 2⟩ ⟨bench.pool.inUse - 2⟩ operator
          ⟨bench.pool.inUse - 1⟩) bench.sink with
      | ok value sink =>
          simp only [Pool.release_top live]
          exact .inl ⟨_, rfl, rfl, rfl⟩
      | error cause sink => exact .inr ⟨cause, _, rfl, rfl⟩
  | drop => exact .inl ⟨_, release_top bench allowed, rfl, rfl⟩

/-- Executing a plan delivers the instructions of the limited plan and its result. -/
theorem report_execute (bench : Workbench σ) (code : StackCode) (result : Except Error Unit)
    (disciplined : code.Disciplined bench.pool.inUse) :
    report (execute ⟨code, result⟩ bench) =
      Sink.deliver
        ((Plan.limited bench.pool.capacity bench.pool.inUse ⟨code, result⟩).code.instrs
          bench.pool.inUse)
        (Plan.limited bench.pool.capacity bench.pool.inUse ⟨code, result⟩).result bench.sink := by
  induction code generalizing bench with
  | nil =>
      rw [Plan.limited_of_fits (Nat.zero_le _)]
      cases result with
      | ok value => rfl
      | error cause => rfl
  | cons op code ih =>
      have stepped : execute ⟨op :: code, result⟩ bench =
          (do perform op; execute ⟨code, result⟩) bench := by
        simp only [execute, performAll, bind_assoc]
      by_cases room : op.reach bench.pool.inUse ≤ bench.pool.capacity
      · have limited_eq : Plan.limited bench.pool.capacity bench.pool.inUse ⟨op :: code, result⟩ =
            (Plan.limited bench.pool.capacity (op.depth bench.pool.inUse) ⟨code, result⟩).precededBy
              [op] :=
          @Plan.limited_precededBy _ _ ⟨code, result⟩ [op] (Nat.max_le.mpr ⟨room, Nat.zero_le _⟩)
        rw [stepped, limited_eq]
        rcases perform_delivers bench disciplined.1 room with
          ⟨after, performed, pool_eq, accepted⟩ | ⟨cause, after, performed, refused⟩
        · have rest := ih after (by rw [pool_eq, StackOp.onPool_inUse]; exact disciplined.2)
          rw [pool_eq, StackOp.onPool_inUse, StackOp.onPool_capacity] at rest
          rw [Generator.bind_of_ok performed, rest]
          exact (Sink.deliver_append_of_ok accepted).symm
        · rw [Generator.bind_of_error performed]
          exact (Sink.deliver_append_of_error refused).symm
      · have short : ¬ StackCode.peak bench.pool.inUse (op :: code) ≤ bench.pool.capacity :=
          fun fits => room (Nat.max_le.mp fits).1
        have cut : StackCode.within bench.pool.capacity bench.pool.inUse (op :: code) = [] := by
          simp [StackCode.within, room]
        rw [stepped, Generator.bind_of_error (perform_exhausted bench room), Plan.limited, cut,
          if_neg short]
        rfl

end Workbench

/-- A compilation into any sink delivers its listing. -/
theorem compileInto_eq_deliver {σ : Type} [Sink σ] (source : String) (options : Options)
    (sink : σ) :
    ((compileInto source options sink).1.result, (compileInto source options sink).2) =
      Sink.deliver (compileInto source options Listing.empty).2.instrs.toList
        (compileInto source options Listing.empty).1.result sink := by
  cases valid : options.validate with
  | error cause =>
      simp only [compileInto, valid]
      rfl
  | ok value =>
      have delivered := @Workbench.report_execute σ _ ⟨.ofCapacity options.registers, sink, #[]⟩
        (Plan.ofSource source).code (Plan.ofSource source).result
        (Plan.disciplined_ofSource source _)
      rw [compileInto_listing valid, (compileInto_limited Listing.empty.unfailing valid).1,
        compileInto_eq sink valid]
      refine Eq.trans ?_ delivered
      cases Workbench.execute (Plan.ofSource source)
          ⟨.ofCapacity options.registers, sink, #[]⟩ with
      | ok value bench => rfl
      | error cause bench => rfl

/-! ## Writers -/

namespace Writer

theorem write_nil (writer : Writer) : write [] writer = .ok () writer := by
  obtain ⟨written, limit⟩ := writer
  cases limit with
  | none => simp [write]
  | some limit => simp [write]

/-- Writing in two parts is writing at once, also if the limit falls into one of the parts. -/
theorem write_append (first second : List UInt8) (writer : Writer) :
    write (first ++ second) writer = (do write first; write second) writer := by
  obtain ⟨written, limit⟩ := writer
  have joined : ∀ rest : List UInt8, written ++ (first ++ rest) = written ++ first ++ rest := by
    intro rest
    apply Array.toList_inj.mp
    simp
  cases limit with
  | none => simp [write, bind, EStateM.bind, joined]
  | some limit =>
      simp only [write, bind, EStateM.bind, List.length_append]
      by_cases firstFits : first.length ≤ limit - written.size
      · have size_eq : (written ++ first).size = written.size + first.length := by
          simp [← Array.length_toList]
        by_cases bothFit : first.length + second.length ≤ limit - written.size
        · have secondFits : second.length ≤ limit - (written ++ first).size := by omega
          simp [firstFits, bothFit, secondFits, joined]
        · have secondCut : ¬ second.length ≤ limit - (written ++ first).size := by omega
          have cut_eq : (first ++ second).take (limit - written.size) =
              first ++ second.take (limit - (written ++ first).size) := by
            rw [List.take_append, List.take_of_length_le firstFits, size_eq, Nat.sub_add_eq]
          simp [firstFits, bothFit, secondCut, cut_eq, joined]
      · have bothCut : ¬ first.length + second.length ≤ limit - written.size := by omega
        have cut_eq : (first ++ second).take (limit - written.size) =
            first.take (limit - written.size) :=
          List.take_append_of_le_length (by omega)
        simp [firstFits, bothCut, cut_eq]

/-- Instructions are written as the text of their lines. -/
theorem forM_emit (instrs : List Instr) (writer : Writer) :
    instrs.forM Sink.emit writer =
      write (Text.bytes (instrs.flatMap fun instr => instr.line.toList)) writer := by
  induction instrs generalizing writer with
  | nil => exact (write_nil writer).symm
  | cons instr instrs ih =>
      rw [List.flatMap_cons, Text.bytes_append, write_append]
      simp only [List.forM, bind, EStateM.bind, Sink.emit]
      cases write (Text.bytes instr.line.toList) writer with
      | ok value between => exact ih between
      | error cause between => rfl

/-- A writer without a limit takes everything. -/
theorem deliver_unlimited (instrs : List Instr) (result : Except Error Unit) :
    Sink.deliver instrs result (ofLimit none) =
      (result, ⟨(Text.bytes (instrs.flatMap fun instr => instr.line.toList)).toArray, none⟩) := by
  rw [Sink.deliver, forM_emit]
  simp [write, ofLimit]

/-- A writer takes the first bytes up to its limit, and fails if there are more. -/
theorem deliver_limited (instrs : List Instr) (result : Except Error Unit) (limit : Nat) :
    Sink.deliver instrs result (ofLimit (some limit)) =
      (if (Text.bytes (instrs.flatMap fun instr => instr.line.toList)).length ≤ limit then result
        else .error (.write .full),
      ⟨((Text.bytes (instrs.flatMap fun instr => instr.line.toList)).take limit).toArray,
        some limit⟩) := by
  rw [Sink.deliver, forM_emit]
  generalize Text.bytes (instrs.flatMap fun instr => instr.line.toList) = bytes
  by_cases fits : bytes.length ≤ limit
  · simp [write, ofLimit, fits, List.take_of_length_le fits]
  · simp [write, ofLimit, fits]

end Writer

/-- The text of a listing, one instruction to a line. -/
theorem toList_join_lines (instrs : List Instr) :
    (String.join (instrs.map fun instr => instr.text ++ "\n")).toList =
      instrs.flatMap fun instr => instr.line.toList := by
  rw [String.toList_join, List.flatMap_map]
  rfl

/-- A buffer comes with the result of the listing, and holds its lines. -/
theorem compileInto_buffer (source : String) (options : Options) :
    (compileInto source options Buffer.empty).1.result =
        (compileInto source options Listing.empty).1.result ∧
      (compileInto source options Buffer.empty).2.text =
        String.join ((compileInto source options Listing.empty).2.instrs.toList.map
          fun instr => instr.text ++ "\n") := by
  have delivered := compileInto_eq_deliver source options Buffer.empty
  rw [Buffer.empty.unfailing.deliver_eq, Prod.mk.injEq] at delivered
  refine ⟨delivered.1, String.toList_inj.mp ?_⟩
  rw [delivered.2, Buffer.foldl_receive, toList_join_lines]
  rfl

/-- A writer that takes every byte comes with the result of the listing, and receives its lines. -/
theorem compileInto_writer (source : String) (options : Options) :
    (compileInto source options (Writer.ofLimit none)).1.result =
        (compileInto source options Listing.empty).1.result ∧
      (compileInto source options (Writer.ofLimit none)).2.text? =
        some (String.join ((compileInto source options Listing.empty).2.instrs.toList.map
          fun instr => instr.text ++ "\n")) := by
  have delivered := compileInto_eq_deliver source options (Writer.ofLimit none)
  rw [Writer.deliver_unlimited, ← toList_join_lines, Text.bytes_toList, Prod.mk.injEq] at delivered
  refine ⟨delivered.1, ?_⟩
  rw [delivered.2]
  exact dif_pos (String.isValidUTF8 _)

/-- A buffer, a listing and a writer without a limit receive the same instructions and come with the
same result, whether it is an error or not.  A writer with a limit receives the bytes of the same
text up to its limit, and if there are more, its own error takes the place of the result. -/
theorem compileInto_sinks_agree (source : String) (options : Options) :
    let listed := compileInto source options Listing.empty
    let text := String.join (listed.2.instrs.toList.map fun instr => instr.text ++ "\n")
    let buffered := compileInto source options Buffer.empty
    let printed := compileInto source options (Writer.ofLimit none)
    buffered.1.result = listed.1.result ∧ printed.1.result = listed.1.result ∧
    buffered.2.text = text ∧ printed.2.text? = some text ∧
    ∀ limit : Nat,
      let cut := compileInto source options (Writer.ofLimit (some limit))
      cut.2.written.toList = text.toUTF8.data.toList.take (min limit text.utf8ByteSize) ∧
      cut.1.result = if text.utf8ByteSize ≤ limit then listed.1.result
        else .error (.write .full) := by
  intro listed text buffered printed
  obtain ⟨buffered_result, buffered_text⟩ := compileInto_buffer source options
  obtain ⟨printed_result, printed_text⟩ := compileInto_writer source options
  refine ⟨buffered_result, printed_result, buffered_text, printed_text, ?_⟩
  intro limit cut
  have bytes_eq : Text.bytes (listed.2.instrs.toList.flatMap fun instr => instr.line.toList) =
      text.toUTF8.data.toList := by
    rw [← toList_join_lines, Text.bytes_toList]
  have size_eq : text.toUTF8.data.toList.length = text.utf8ByteSize := Array.length_toList
  have delivered := compileInto_eq_deliver source options (Writer.ofLimit (some limit))
  rw [Writer.deliver_limited, bytes_eq, size_eq, Prod.mk.injEq] at delivered
  refine ⟨?_, delivered.1⟩
  rw [delivered.2, ← size_eq, ← List.take_eq_take_min]

end ThreeAddress
