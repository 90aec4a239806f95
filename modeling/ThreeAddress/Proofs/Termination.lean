import ThreeAddress.Proofs.Positions

/-!
# Generation comes to an end

A scan that finds something moves the cursor on, and a scan that finds nothing stands at the end of
the text.  Generation never consumes the end of the text, so each of its scans but the last uses up
some of what was left.  Whatever earlier calls did, a call performs at most as many scans as there
are bytes behind the cursor, and one more.  It takes a step for each token that it consumes, and a
last one.
-/

namespace ThreeAddress

/-! ## Scans move on -/

namespace Lexer

variable {text : List Char} {lexer : Lexer}

/-- A scan that meets the end of the text stands there.  Any other scan moves on, also if it
fails. -/
theorem scan_moves_on (stands : lexer.cursor.StandsIn text) :
    match scan lexer with
    | .ok token after =>
        if token.symbol = .endOfInput then after.cursor.stop = Text.byteSize text
        else lexer.cursor.stop < after.cursor.stop
    | .error _ after => lexer.cursor.stop < after.cursor.stop := by
  rcases lexer.cursor.next_cases with
    scanned | ⟨gap, outcome, lexeme, rest, -, nonempty, inside, scanned⟩
  · simp only [scan, scanned, if_true]
    exact stands.stop_add_byteSize
  · have further : lexer.cursor.stop < lexer.cursor.next.2.stop := by
      have positive := List.length_pos_iff.mpr nonempty
      have enough := Text.length_le_byteSize lexeme
      simp only [scanned, Cursor.stop, Cursor.length]
      omega
    rw [scanned] at further
    cases outcome with
    | ok token =>
        simp only [scan, scanned]
        rw [if_neg (inside token rfl)]
        exact further
    | error cause =>
        simp only [scan, scanned]
        exact further

/-! ## Scans are limited -/

theorem pending_le (lexer : Lexer) : lexer.pending ≤ lexer.cursor.rest.length + 1 := by
  unfold pending
  split
  · exact Nat.zero_le _
  · exact Nat.le_refl _

/-- At least the first scans were performed, and with those that may still come there are no more
than the limit. -/
structure Spends (first limit : Nat) (lexer : Lexer) : Prop where
  begun : first ≤ lexer.cursor.scans
  affordable : lexer.cursor.scans + lexer.pending ≤ limit

variable {first limit : Nat}

/-- Unless the end of the text is held, there is a scan to spare. -/
theorem ensures_scan_spends :
    Ensures (fun lexer => Spends first limit lexer ∧ lexer.pending = lexer.cursor.rest.length + 1)
      scan (fun _ => Spends first limit) fun _ => Spends first limit := by
  rintro lexer ⟨spends, ahead⟩
  have affordable := spends.affordable
  have begun := Nat.le_succ_of_le spends.begun
  rw [ahead] at affordable
  rcases lexer.cursor.next_cases with
    scanned | ⟨gap, outcome, lexeme, rest, rest_eq, nonempty, -, scanned⟩
  · -- Once the end of the text is held, nothing is pending.
    simp only [scan, scanned]
    refine ⟨begun, ?_⟩
    simp only [pending]
    omega
  · have spent : ∀ lookahead, Spends first limit
        ⟨⟨lexer.cursor.stop + Text.byteSize gap, lexeme, rest, lexer.cursor.scans + 1⟩,
          lookahead⟩ := by
      intro lookahead
      refine ⟨begun, Nat.le_trans (Nat.add_le_add_left (pending_le _) _) ?_⟩
      have positive := List.length_pos_iff.mpr nonempty
      simp only [rest_eq, List.length_append] at affordable
      simp only
      omega
    cases outcome with
    | ok token | error cause =>
        simp only [scan, scanned]
        exact spent _

theorem ensures_peek_spends :
    Ensures (Spends first limit) peek (fun _ => Spends first limit) fun _ => Spends first limit := by
  intro lexer spends
  simp only [peek]
  cases held : lexer.lookahead with
  | some token => exact spends
  | none => exact ensures_scan_spends lexer ⟨spends, by simp only [pending, held]⟩

theorem ensures_advance_spends (token : Token) (inside : token.symbol ≠ .endOfInput) :
    Ensures (fun lexer => Spends first limit lexer ∧ lexer.lookahead = some token) advance
      (fun _ => Spends first limit) fun _ => Spends first limit := by
  -- The held token is not the end of the text, so looking at it leaves the scan to spare.
  have looked : Ensures (fun lexer => Spends first limit lexer ∧ lexer.lookahead = some token) peek
      (fun _ lexer => Spends first limit lexer ∧ lexer.pending = lexer.cursor.rest.length + 1)
      fun _ => Spends first limit := by
    rintro lexer ⟨spends, held⟩
    simp only [peek, held]
    exact ⟨spends, pending_eq held inside⟩
  apply looked.bind
  intro _
  apply ensures_scan_spends.bind
  intro _
  exact .pure fun _ => id

/-- Generation keeps within the scans that may still come. -/
theorem spends_contract (first limit : Nat) :
    LexerContract (Spends first limit) (Spends first limit) fun _ => Spends first limit :=
  .of_kept ensures_peek_spends ensures_advance_spends

end Lexer

/-! ## Steps are limited -/

namespace Generator

variable {σ : Type} [Sink σ]

/-- From what has been read of a statement, exactly so many steps lead to the result. -/
inductive EndsAfter :
    Nat → Progress → Generator σ → EStateM.Result Error (Generator σ) Unit → Prop where
  | done {progress : Progress} {before after : Generator σ}
      (stepped : step progress before = .ok none after) :
      EndsAfter 1 progress before (.ok () after)
  | failed {progress : Progress} {before after : Generator σ} {cause : Error}
      (stepped : step progress before = .error cause after) :
      EndsAfter 1 progress before (.error cause after)
  | goOn {progress next : Progress} {before between : Generator σ} {steps : Nat}
      {result : EStateM.Result Error (Generator σ) Unit}
      (stepped : step progress before = .ok (some next) between)
      (ends : EndsAfter steps next between result) :
      EndsAfter (steps + 1) progress before result

/-- There are no more steps than tokens to consume, and a last one. -/
theorem resume_endsAfter (progress : Progress) (generator : Generator σ) :
    ∃ steps ≤ generator.lexer.pending + 1,
      EndsAfter steps progress generator (resume progress generator) := by
  fun_induction resume progress generator with
  | case1 progress generator next after stepped ih =>
      obtain ⟨steps, notMore, ends⟩ := ih
      have fewer := pending_lt_of_step stepped
      exact ⟨steps + 1, by omega, .goOn stepped ends⟩
  | case2 progress generator after stepped =>
      exact ⟨1, Nat.le_add_left 1 _, .done stepped⟩
  | case3 progress generator cause after stepped =>
      exact ⟨1, Nat.le_add_left 1 _, .failed stepped⟩

end Generator

/-- Whatever was asked of a lexer, its next scan moves on, or meets the end of the text and stands
there.  Give the lexer to a generator and call that any number of times: the next call comes to its
end.  It takes at most two steps more than there are bytes behind the cursor, and performs at most
one scan more than there are. -/
theorem statements_end_by_scanning {σ : Type} [Sink σ] (source : String) (asked : List Lexer.Call)
    (pool : Pool) (sink : σ) (events : Array Event) (calls : Nat) :
    let lexer := (performCalls Lexer.answer asked (Lexer.ofString source)).2
    let before := (Generator.mk lexer pool sink events).afterCalls calls
    let left := source.utf8ByteSize - before.lexer.cursor.stop
    (match Lexer.scan lexer with
      | .ok token after =>
          if token.symbol = .endOfInput then after.cursor.stop = source.utf8ByteSize
          else lexer.cursor.stop < after.cursor.stop
      | .error _ after => lexer.cursor.stop < after.cursor.stop) ∧
    (∃ steps ≤ left + 2,
      Generator.EndsAfter steps .boundary before (Generator.statements before)) ∧
    ∃ performed ≤ left + 1,
      before.proceed.lexer.cursor.scans = before.lexer.cursor.scans + performed := by
  intro lexer before left
  have follows := Lexer.follows_performCalls source asked
  have total : before.lexer.cursor.stop + Text.byteSize before.lexer.cursor.rest =
      source.utf8ByteSize := by
    rw [← Text.byteSize_toList]
    exact (Generator.kept_afterCalls (Lexer.follows_contract source) follows
      calls).standsIn.stop_add_byteSize
  have ahead : before.lexer.pending ≤ left + 1 := by
    have upTo := before.lexer.pending_le
    have enough := Text.length_le_byteSize before.lexer.cursor.rest
    omega
  refine ⟨?_, ?_, ?_⟩
  · rw [← Text.byteSize_toList]
    exact Lexer.scan_moves_on follows.standsIn
  · obtain ⟨steps, notMore, ends⟩ := Generator.resume_endsAfter .boundary before
    exact ⟨steps, Nat.le_trans notMore (Nat.succ_le_succ ahead), ends⟩
  · have starts : before.lexer.Spends before.lexer.cursor.scans
        (before.lexer.cursor.scans + before.lexer.pending) := ⟨Nat.le_refl _, Nat.le_refl _⟩
    obtain ⟨begun, affordable⟩ := Generator.kept_proceed (Lexer.spends_contract _ _) starts
    exact ⟨before.proceed.lexer.cursor.scans - before.lexer.cursor.scans, by omega, by omega⟩

end ThreeAddress
