import ThreeAddress.Proofs.Delivery
import ThreeAddress.Proofs.LexerContract
import ThreeAddress.Proofs.ScanSequence
import ThreeAddress.Proofs.StackDiscipline

/-!
# What errors quote

An error that expects a number or the end of a statement names a place in the source and quotes the
text there.  Where a number is expected, the place is that of the token that was rejected, and the
text is that of the latest scan.  The two belong together unless the latest scan failed, and a call
begins with such a lexer only if an earlier call failed at a character that starts no word.  If what
is held then is a sign, this call and all later ones give the place of the sign and the text of the
character.  In all other states the errors quote the token that was rejected.
-/

namespace ThreeAddress

/-! ## Items at their places -/

namespace Tiled

variable {source : String} {items : List Item}

/-- At the place of an item stands its text. -/
theorem startsAt (tiled : Tiled 0 source.toList items) {item : Item} (member : item ∈ items) :
    Text.StartsAt source item.offset (String.ofList item.text) := by
  obtain ⟨before, after, split, offset_eq, -⟩ := tiled.exists_split member
  rw [offset_eq, Nat.zero_add]
  rw [List.append_assoc] at split
  exact Text.startsAt_of_split split

/-- A stray character is not a word. -/
theorem stray_ne_word {start : Nat} {text : List Char} (tiled : Tiled start text items) {c : Char}
    {offset : Nat} (member : ⟨.stray c, offset⟩ ∈ items) (word : Word) : word.text ≠ [c] := by
  induction tiled with
  | finish blank => simp at member
  | word blank longest tail ih =>
      rcases List.mem_cons.mp member with same | member
      · simp at same
      · exact ih member
  | stray blank notBlank noWord tail ih =>
      rcases List.mem_cons.mp member with same | member
      · obtain ⟨rfl, -⟩ : c = _ ∧ _ := by simpa using same
        intro text_eq
        exact noWord word (text_eq ▸ ⟨_, rfl⟩)
      · exact ih member

end Tiled

namespace Item

variable {item : Item}

/-- A sign is a word of one character. -/
theorem exists_sign {token : Token} (scanned : item.outcome = .ok token)
    (sign : token.symbol.IsSign) : ∃ (word : Word) (c : Char), word.text = [c] ∧ item.text = [c] := by
  obtain ⟨found, offset⟩ := item
  cases found with
  | word word =>
      cases scanned
      cases word with
      | plus => exact ⟨.plus, '+', rfl, rfl⟩
      | times => exact ⟨.times, '*', rfl, rfl⟩
      | semicolon => exact ⟨.semicolon, ';', rfl, rfl⟩
      | number value => contradiction
  | stray c => contradiction
  | finish =>
      cases scanned
      contradiction

/-- Only a stray character makes a scan fail. -/
theorem exists_stray {cause : ScanError} (failed : item.outcome = .error cause) :
    ∃ c, item = ⟨.stray c, item.offset⟩ := by
  obtain ⟨found, offset⟩ := item
  cases found with
  | word word => contradiction
  | stray c => exact ⟨c, rfl⟩
  | finish => contradiction

end Item

/-! ## Lexers of a source -/

namespace Lexer

/-- The lexer has performed some of the scans of the source. -/
def Follows (source : String) (lexer : Lexer) : Prop :=
  ∃ items pointer, Tiled 0 source.toList items ∧ StandsAt source.toList items lexer pointer

theorem follows_ofString (source : String) : Follows source (ofString source) := by
  obtain ⟨items, tiled⟩ := Tiled.exists_of_text 0 source.toList
  exact ⟨items, .start, tiled, standsAt_start source items⟩

private theorem ensures_follows {α : Type} {source : String} {action : EStateM ScanError Lexer α}
    {expected : (Nat → Item) → EStateM ScanError Pointer α}
    (agree : ∀ items lexer pointer, Tiled 0 source.toList items →
      StandsAt source.toList items lexer pointer →
      Agrees (StandsAt source.toList items) (action lexer)
        (expected (itemAt source.toList items) pointer)) :
    Ensures (Follows source) action (fun _ => Follows source) fun _ => Follows source := by
  rintro lexer ⟨items, pointer, tiled, stands⟩
  have agrees := agree items lexer pointer tiled stands
  generalize action lexer = result at agrees ⊢
  generalize expected (itemAt source.toList items) pointer = other at agrees
  cases agrees with
  | ok value still => exact ⟨items, _, tiled, still⟩
  | error cause still => exact ⟨items, _, tiled, still⟩

/-- Generation keeps to the scans of its source. -/
theorem follows_contract (source : String) :
    LexerContract (Follows source) (Follows source) fun _ => Follows source :=
  .of_kept (ensures_follows fun _ _ _ => peek_agrees)
    fun _ _ => (ensures_follows fun _ _ _ => advance_agrees).of_stronger fun _ => And.left

variable {source : String} {lexer : Lexer} {token : Token}

/-- The token stands where the cursor stands, and is as long as what the cursor shows. -/
def Shows (lexer : Lexer) (token : Token) : Prop :=
  token.offset = lexer.offset ∧ token.length = lexer.cursor.length

/-- The cursor shows the token that is held, if there is one. -/
def InStep (lexer : Lexer) : Prop :=
  ∀ token, lexer.lookahead = some token → lexer.Shows token

/-- A sign is held that is older than the latest scan. -/
def HoldsStaleSign (lexer : Lexer) : Prop :=
  ∃ token, lexer.lookahead = some token ∧ token.symbol.IsSign ∧ ¬ lexer.Shows token

/-- The offset is that of the held token, and the lexeme is its text. -/
def QuotesHeld (source : String) (lexer : Lexer) (offset : Nat) (lexeme : String) : Prop :=
  ∃ token, lexer.lookahead = some token ∧ token.offset = offset ∧
    token.length = lexeme.utf8ByteSize ∧ Text.StartsAt source offset lexeme

/-- If a token is held, something was scanned. -/
private theorem StandsAt.exists_latest {text : List Char} {items : List Item} {pointer : Pointer}
    (stands : StandsAt text items lexer pointer) (held : lexer.lookahead = some token) :
    ∃ latest, pointer.next = latest + 1 := by
  obtain ⟨number, -, performed, -⟩ := stands.exists_held held
  exact Nat.exists_eq_add_one.mpr (by omega)

/-- What the cursor shows stands where it says. -/
theorem Follows.startsAt_lexeme (follows : Follows source lexer)
    (held : lexer.lookahead = some token) :
    Text.StartsAt source lexer.offset lexer.lexeme := by
  obtain ⟨items, pointer, tiled, stands⟩ := follows
  obtain ⟨latest, latest_eq⟩ := stands.exists_latest held
  obtain ⟨offset_eq, text_eq, -⟩ := Cursor.after_succ tiled latest
  rw [offset, lexeme, stands.cursor_eq, latest_eq, offset_eq, text_eq]
  exact tiled.startsAt (tiled.itemAt_mem latest)

/-- A token that the cursor shows is quoted by what the cursor shows. -/
theorem Follows.quotesHeld (follows : Follows source lexer) (held : lexer.lookahead = some token)
    (shows : lexer.Shows token) : QuotesHeld source lexer token.offset lexer.lexeme := by
  refine ⟨token, held, rfl, ?_, ?_⟩
  · rw [shows.2, ← Text.byteSize_toList, lexeme, String.toList_ofList]
    rfl
  · rw [shows.1]
    exact follows.startsAt_lexeme held

/-- At the place of a sign that is older than the latest scan, the source does not go on with what
the cursor shows. -/
theorem Follows.not_startsAt (follows : Follows source lexer) (held : lexer.lookahead = some token)
    (sign : token.symbol.IsSign) (stale : ¬ lexer.Shows token) :
    ¬ Text.StartsAt source token.offset lexer.lexeme := by
  obtain ⟨items, pointer, tiled, stands⟩ := follows
  obtain ⟨number, -, -, outcome⟩ := stands.exists_held held
  obtain ⟨latest, latest_eq⟩ := stands.exists_latest held
  -- The sign was scanned, and the latest scan failed at a character that is not a sign.
  obtain ⟨word, mark, word_eq, mark_eq⟩ := Item.exists_sign outcome sign
  rw [Shows, stands.inStep_iff tiled held latest_eq, not_exists] at stale
  obtain ⟨c, stray_eq⟩ : ∃ c, itemAt source.toList items latest = ⟨.stray c, _⟩ := by
    cases failed : (itemAt source.toList items latest).outcome with
    | ok scanned => exact absurd failed (stale scanned)
    | error cause => exact Item.exists_stray failed
  have differ : c ≠ mark := by
    rintro rfl
    exact tiled.stray_ne_word (stray_eq ▸ tiled.itemAt_mem latest) word word_eq
  have marked := tiled.startsAt (tiled.itemAt_mem number)
  rw [mark_eq, ← (Item.place_of_outcome outcome).1] at marked
  have lexeme_eq : lexer.lexeme = String.ofList [c] := by
    rw [lexeme, stands.cursor_eq, latest_eq, (Cursor.after_succ tiled latest).2.1, stray_eq]
    rfl
  rw [lexeme_eq]
  intro starts
  exact differ (starts.head_unique marked)

/-! ## Calls and the lexer that they leave -/

/-- The cursor shows a token that was just scanned. -/
theorem ensures_scan (before : Lexer → Prop) :
    Ensures before scan (fun _ => InStep) fun _ _ => True := by
  intro lexer _
  obtain ⟨items, tiled⟩ := Tiled.exists_of_text lexer.cursor.stop lexer.cursor.rest
  obtain ⟨item, others, rfl⟩ := List.exists_cons_of_ne_nil tiled.ne_nil
  obtain ⟨rest, scanned, -⟩ := Cursor.next_of_tiled lexer.cursor tiled
  simp only [scan, scanned]
  cases outcome : item.outcome with
  | ok token =>
      intro other held
      obtain rfl := Option.some.inj held
      exact Item.place_of_outcome outcome
  | error cause => trivial

/-- The cursor shows what is held, or the lexer is still the one at the origin. -/
def Settled (origin lexer : Lexer) : Prop :=
  lexer.InStep ∨ lexer = origin

theorem ensures_peek_of_inStep {known : Lexer → Prop}
    (of_inStep : ∀ lexer, lexer.InStep → known lexer) :
    Ensures known peek (fun _ => known) fun _ _ => True := by
  intro lexer holds
  simp only [peek]
  cases held : lexer.lookahead with
  | some token => exact holds
  | none =>
      have scanned := ensures_scan known lexer holds
      cases outcome : scan lexer with
      | ok token after =>
          rw [outcome] at scanned
          exact of_inStep after scanned
      | error cause after => trivial

theorem ensures_advance (before : Lexer → Prop) :
    Ensures before advance (fun _ => InStep) fun _ _ => True := by
  have looked : Ensures before peek (fun _ _ => True) fun _ _ => True :=
    (ensures_peek_of_inStep fun _ _ => trivial).of_stronger fun _ _ => trivial
  apply looked.bind
  intro token
  apply (ensures_scan _).bind
  intro next
  exact .pure fun _ => id

end Lexer

/-- What an error says of the lexer that a call leaves, if it began with the origin. -/
def Error.Describes (origin lexer : Lexer) : Error → Prop
  | .scan _ => True
  | .grammar (.expectedNumber offset lexeme) =>
      Lexer.Settled origin lexer ∧ lexer.lexeme = lexeme ∧
        ∃ token, lexer.lookahead = some token ∧ token.symbol.IsSign ∧ token.offset = offset
  | .grammar (.expectedTerminator offset lexeme) =>
      lexer.InStep ∧ lexer.offset = offset ∧ lexer.lexeme = lexeme ∧
        ∃ token, lexer.lookahead = some token
  | _ => Lexer.Settled origin lexer

theorem Error.Describes.settled {origin lexer : Lexer} {cause : Error}
    (described : cause.Describes origin lexer) (scanned : ∀ failure, cause ≠ .scan failure) :
    Lexer.Settled origin lexer := by
  cases cause with
  | scan failure => exact absurd rfl (scanned failure)
  | grammar cause =>
      cases cause with
      | expectedNumber offset lexeme => exact described.1
      | expectedTerminator offset lexeme => exact .inl described.1
      | unexpectedEnd offset => exact described
  | write cause => exact described
  | usage cause => exact described
  | pool cause => exact described
  | record cause => exact described

/-- A call without a failed scan leaves a lexer that shows what it holds, or the one that it began
with. -/
theorem Lexer.settled_contract (origin : Lexer) :
    LexerContract (Settled origin) InStep fun cause lexer => cause.Describes origin lexer where
  ready_of_fresh _ := .inl
  peek := ensures_peek_of_inStep fun _ => .inl
  peek_fresh := ensures_peek_of_inStep fun _ => id
  advance _ _ := ensures_advance _
  pool _ _ := id
  unexpectedEnd _ _ settled _ _ := settled
  expectedNumber token _ settled held sign := ⟨settled, rfl, token, held, sign, rfl⟩
  expectedTerminator token _ inStep held := ⟨inStep, rfl, rfl, token, held⟩

namespace Generator

variable {σ : Type} [Sink σ] {generator : Generator σ}

/-- What generation keeps holds after a call, whether the call failed or not. -/
theorem kept_proceed {kept : Lexer → Prop} (contract : LexerContract kept kept fun _ => kept)
    (holds : kept generator.lexer) : kept generator.proceed.lexer := by
  have called := contract.statements generator ⟨.refl generator.output, holds⟩
  simp only [proceed]
  cases outcome : statements generator with
  | ok value after =>
      rw [outcome] at called
      exact called.2
  | error cause after =>
      rw [outcome] at called
      rcases called with ⟨-, kept⟩ | ⟨-, kept⟩
      · exact kept
      · exact kept

/-- What every call keeps holds after any number of calls. -/
theorem kept_afterCalls {kept : Lexer → Prop} (contract : LexerContract kept kept fun _ => kept)
    (holds : kept generator.lexer) (calls : Nat) : kept (generator.afterCalls calls).lexer := by
  induction calls with
  | zero => exact holds
  | succ calls ih => exact kept_proceed contract ih

/-- Whatever fails, the lexer keeps to the scans of its source. -/
theorem follows_afterCalls (source : String) (pool : Pool) (sink : σ) (calls : Nat) :
    ((start source pool sink).afterCalls calls).lexer.Follows source :=
  kept_afterCalls (Lexer.follows_contract source) (Lexer.follows_ofString source) calls

/-- As long as no scan fails, the lexer shows what it holds. -/
theorem inStep_proceed (inStep : generator.lexer.InStep)
    (scanned : ∀ failure after, statements generator = .error (.scan failure) after →
      Sink.Answered generator.output (.scan failure) after.output) :
    generator.proceed.lexer.InStep := by
  have settled : Lexer.Settled generator.lexer generator.proceed.lexer := by
    have left := (Lexer.settled_contract generator.lexer).statements generator
      ⟨.refl generator.output, .inr rfl⟩
    simp only [proceed]
    cases called : statements generator with
    | ok value after =>
        rw [called] at left
        exact left.2
    | error cause after =>
        rw [called] at left
        rcases left with ⟨-, settled⟩ | ⟨accepted, described⟩
        · exact settled
        · refine described.settled ?_
          rintro failure rfl
          exact accepted.not_answered (scanned failure after called)
  rcases settled with shown | same
  · exact shown
  · rw [same]
    exact inStep

/-- A call that begins with a sign rejects it and changes nothing. -/
theorem statements_of_held_sign {token : Token} (held : generator.lexer.lookahead = some token)
    (sign : token.symbol.IsSign) :
    statements generator =
      .error (.grammar (.expectedNumber token.offset generator.lexer.lexeme)) generator := by
  have peeked := peek_of_held held
  have inside : token.symbol ≠ .endOfInput := by
    intro last
    rw [last] at sign
    exact sign
  apply resume_of_error
  rw [step_boundary_of_inside peeked inside]
  simp only [step, readOperand, load, bind_assoc]
  rw [bind_of_ok peeked]
  obtain ⟨symbol, offset, length⟩ := token
  cases symbol with
  | plus | times | semicolon => rfl
  | number literal => contradiction
  | endOfInput => contradiction

end Generator

/-- A call that begins with a sign that is older than the latest scan fails, gives a place where
the source does not go on with what it quotes, and changes nothing.  Whenever another call expects a
number or the end of a statement, and the error is not one that the sink returned, it quotes the
token that it rejects and gives its place.  As long as no call fails in a scan of its own, there is
no such sign. -/
theorem statements_quote_rejected {σ : Type} [Sink σ] (source : String) (pool : Pool) (sink : σ)
    (calls : Nat) :
    let generator := Generator.start source pool sink
    let before := generator.afterCalls calls
    (before.lexer.HoldsStaleSign →
      ∃ offset lexeme,
        Generator.statements before = .error (.grammar (.expectedNumber offset lexeme)) before ∧
        ¬ Text.StartsAt source offset lexeme) ∧
    (¬ before.lexer.HoldsStaleSign → ∀ offset lexeme cause after,
      cause = .expectedNumber offset lexeme ∨ cause = .expectedTerminator offset lexeme →
      Generator.statements before = .error (.grammar cause) after →
      ¬ Sink.Answered before.output (.grammar cause) after.output →
      after.lexer.QuotesHeld source offset lexeme) ∧
    ((∀ earlier < calls, ∀ failure after,
        Generator.statements (generator.afterCalls earlier) = .error (.scan failure) after →
        Sink.Answered (generator.afterCalls earlier).output (.scan failure) after.output) →
      ¬ before.lexer.HoldsStaleSign) := by
  intro generator before
  have follows := Generator.follows_afterCalls source pool sink calls
  refine ⟨?_, ?_, ?_⟩
  · rintro ⟨token, held, sign, stale⟩
    exact ⟨token.offset, before.lexer.lexeme, Generator.statements_of_held_sign held sign,
      follows.not_startsAt held sign stale⟩
  · intro notStale offset lexeme cause after quotes failed notAnswered
    have left := (Lexer.settled_contract before.lexer).statements before
      ⟨.refl before.output, .inr rfl⟩
    have stillFollows := Generator.follows_afterCalls source pool sink (calls + 1)
    rw [Generator.afterCalls, Generator.proceed, failed] at stillFollows
    rw [failed] at left
    obtain ⟨-, described⟩ := left.resolve_left fun answered => notAnswered answered.1
    rcases quotes with rfl | rfl
    · obtain ⟨settled, rfl, token, held, sign, rfl⟩ := described
      refine stillFollows.quotesHeld held ?_
      rcases settled with inStep | same
      · exact inStep token held
      · rw [same] at held ⊢
        by_cases shown : before.lexer.Shows token
        · exact shown
        · exact absurd ⟨token, held, sign, shown⟩ notStale
    · obtain ⟨inStep, rfl, rfl, token, held⟩ := described
      rw [← (inStep token held).1]
      exact stillFollows.quotesHeld held (inStep token held)
  · intro scanned
    have inStep : ∀ count ≤ calls, (generator.afterCalls count).lexer.InStep := by
      intro count notMore
      induction count with
      | zero => exact nofun
      | succ count ih => exact Generator.inStep_proceed (ih (by omega)) (scanned count notMore)
    rintro ⟨token, held, -, stale⟩
    exact stale (inStep calls (Nat.le_refl calls) token held)

/-- After a sign, a character that starts no word makes the second call misquote. -/
theorem second_call_misquotes :
    let before := (Generator.start "1 + x" (.ofCapacity 10) Listing.empty).afterCalls 1
    Generator.statements before = .error (.grammar (.expectedNumber 2 "x")) before ∧
      ¬ Text.StartsAt "1 + x" 2 "x" := by
  intro before
  obtain ⟨next, loaded, stepped, last, failed, lexer_eq⟩ : ∃ next loaded,
      Generator.step .boundary (Generator.start "1 + x" (.ofCapacity 10) Listing.empty) =
        .ok (some next) loaded ∧
      ∃ last, Generator.step next loaded = .error (.scan (.unexpectedCharacter 4 'x')) last ∧
        last.lexer = ⟨⟨4, ['x'], [], 3⟩, some ⟨.plus, 2, 1⟩⟩ := ⟨_, _, rfl, _, rfl, rfl⟩
  have first : Generator.statements (Generator.start "1 + x" (.ofCapacity 10) Listing.empty) =
      .error (.scan (.unexpectedCharacter 4 'x')) last :=
    (Generator.resume_of_next stepped).trans (Generator.resume_of_error failed)
  have before_eq : before = last := by
    simp only [before, Generator.afterCalls, Generator.proceed, first]
  have held : before.lexer.lookahead = some ⟨.plus, 2, 1⟩ := by rw [before_eq, lexer_eq]
  have lexeme_eq : before.lexer.lexeme = "x" := by
    rw [before_eq, Lexer.lexeme, lexer_eq]
  have stale : ¬ before.lexer.Shows ⟨.plus, 2, 1⟩ := by
    rw [before_eq, Lexer.Shows, Lexer.offset, lexer_eq]
    decide
  have follows := Generator.follows_afterCalls "1 + x" (.ofCapacity 10) Listing.empty 1
  rw [← lexeme_eq]
  exact ⟨Generator.statements_of_held_sign held trivial, follows.not_startsAt held trivial stale⟩

end ThreeAddress
