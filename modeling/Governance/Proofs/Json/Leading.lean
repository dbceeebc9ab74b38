import Mathlib
import Governance.Proofs.Json.Tokens

/-!
# What may stand in front of a document

Every token changes the depth of the reader by an amount of its own, so that what has been read is a
document only when all that was opened is closed again. Nothing but blanks can therefore stand in front
of a text that is a document itself: a value that is complete is not followed by another one, and one that
is not stays open. A quote that is open in front of it is closed by its first key.
-/

namespace Governance.Json

/-! ### The depth of the reader -/

/-- How many arrays and objects more are open behind a token than in front of it. -/
def Token.rise : Token → Int
  | .openArray | .openObject => 1
  | .closeArray | .closeObject => -1
  | _ => 0

section Reading

variable {interest : Interest} {state next : ReadState} {token : Token} {tokens : List Token}

theorem length_complete (frames : List Frame) (value : Json) :
    (ReadState.complete frames value).frames.length = frames.length := by
  rcases frames with _ | ⟨_ | _ | _, _⟩ <;> rfl

/-- No more is open than what the tokens so far have opened, and a value stands at the end once nothing
is open any more. -/
structure ReadState.Settled (state : ReadState) : Prop where
  done : state.frames = [] → state.next = .done
  closed : state.result.isSome → state.frames = []

theorem settled_complete (frames : List Frame) (value : Json) :
    (ReadState.complete frames value).Settled := by
  rcases frames with _ | ⟨_ | _ | _, _⟩ <;> constructor <;> simp [ReadState.complete]

theorem settled_of_frames {frame : Frame} {frames : List Frame} {expected : Expectation} :
    ReadState.Settled ⟨frame :: frames, expected, none⟩ :=
  ⟨nofun, nofun⟩

theorem read_push {frames : List Frame} {frame : Frame} {expected : Expectation}
    (h : ReadState.push interest frames frame expected = some next) :
    next.frames.length = frames.length + 1 ∧ next.Settled := by
  obtain ⟨-, h⟩ := Option.ite_none_right_eq_some.1 h
  cases h
  exact ⟨rfl, settled_of_frames⟩

theorem read_startValue {frames : List Frame}
    (h : ReadState.startValue interest frames token = some next) :
    next.frames.length = frames.length + token.rise ∧ next.Settled := by
  cases token with
  | openArray | openObject =>
    obtain ⟨hlength, hsettled⟩ := read_push h
    exact ⟨by rw [hlength]; rfl, hsettled⟩
  | void =>
    obtain ⟨-, h⟩ := Option.ite_none_left_eq_some.1 h
    cases h
    exact ⟨by rw [length_complete]; simp [Token.rise], settled_complete _ _⟩
  | null | bool | number | string =>
    cases h
    exact ⟨by rw [length_complete]; simp [Token.rise], settled_complete _ _⟩
  | _ => cases h

theorem read_close {frames : List Frame} (h : ReadState.close frames token = some next) :
    next.frames.length = frames.length + token.rise ∧ next.Settled := by
  unfold ReadState.close at h
  split at h
  · cases h
    exact ⟨by rw [length_complete, Token.rise, List.length_cons]; omega, settled_complete _ _⟩
  · cases h
    exact ⟨by rw [length_complete, Token.rise, List.length_cons]; omega, settled_complete _ _⟩
  · cases h

theorem read_startMember {frames : List Frame}
    (h : ReadState.startMember interest frames token = some next) :
    next.frames.length = frames.length + token.rise ∧ next.Settled := by
  unfold ReadState.startMember at h
  split at h
  · cases h
    exact ⟨by simp [Token.rise], settled_of_frames⟩
  · obtain ⟨-, h⟩ := Option.ite_none_left_eq_some.1 h
    cases h
    exact ⟨by simp [Token.rise], settled_of_frames⟩
  · cases h

/-- What one token does to the depth. Nothing is open at the start and when a value is complete. -/
theorem read_depth (hstate : state = ⟨[], .value, none⟩ ∨ state.Settled)
    (h : state.read interest token = some next) :
    next.frames.length = state.frames.length + token.rise ∧ next.Settled := by
  obtain ⟨frames, expected, result⟩ := state
  cases expected with
  | value => exact read_startValue h
  | firstItem =>
    cases token with
    | closeArray => exact read_close h
    | _ => exact @read_startValue interest _ _ _ h
  | firstKey =>
    cases token with
    | closeObject => exact read_close h
    | _ => exact @read_startMember interest _ _ _ h
  | key => exact read_startMember h
  | colon =>
    cases token with
    | colon =>
      cases h
      rcases hstate with hstart | hsettled
      · cases hstart
      cases frames with
      | nil => cases hsettled.done rfl
      | cons frame frames => exact ⟨by simp [Token.rise], settled_of_frames⟩
    | _ => cases h
  | separator =>
    simp only [ReadState.read] at h
    split at h
    · cases h
      exact ⟨by simp [Token.rise], settled_of_frames⟩
    · cases h
      exact ⟨by simp [Token.rise], settled_of_frames⟩
    · exact read_close h
  | done => cases h

theorem readTokens_append {rest : List (Option Token)} {value : Json}
    (h : readTokens interest state (tokens.map some ++ rest) = .ok value) :
    ∃ next, tokens.foldlM (ReadState.read interest) state = some next ∧
      readTokens interest next rest = .ok value := by
  induction tokens generalizing state with
  | nil => exact ⟨state, rfl, h⟩
  | cons token tokens ih =>
    cases hread : state.read interest token with
    | none =>
      rw [List.map_cons, List.cons_append, readTokens, hread] at h
      cases h
    | some next =>
      rw [List.map_cons, List.cons_append, readTokens_cons hread] at h
      obtain ⟨last, hlast, hrest⟩ := ih h
      exact ⟨last, by rw [List.foldlM_cons, hread]; exact hlast, hrest⟩

theorem readAll_depth (hstate : state = ⟨[], .value, none⟩ ∨ state.Settled)
    (h : tokens.foldlM (ReadState.read interest) state = some next) :
    next.frames.length = state.frames.length + (tokens.map Token.rise).sum ∧
      (tokens = [] ∧ next = state ∨ next.Settled) := by
  induction tokens generalizing state with
  | nil =>
    cases h
    exact ⟨by simp, .inl ⟨rfl, rfl⟩⟩
  | cons token tokens ih =>
    obtain ⟨middle, hmiddle, hrest⟩ := Option.bind_eq_some_iff.1 h
    obtain ⟨hlength, hsettled⟩ := read_depth hstate hmiddle
    obtain ⟨hlast, hend⟩ := ih (.inr hsettled) hrest
    refine ⟨by rw [hlast, hlength, List.map_cons, List.sum_cons]; omega, .inr ?_⟩
    rcases hend with ⟨-, rfl⟩ | hend
    · exact hsettled
    · exact hend

theorem rise_eq_zero {value : Json}
    (h : readTokens interest ⟨[], .value, none⟩ (tokens.map some) = .ok value) :
    (tokens.map Token.rise).sum = 0 := by
  rw [← List.append_nil (tokens.map some)] at h
  obtain ⟨last, hall, hlast⟩ := readTokens_append h
  obtain ⟨hlength, hend⟩ := readAll_depth (.inl rfl) hall
  rcases hend with ⟨rfl, -⟩ | hsettled
  · rfl
  · have hresult : last.result.isSome := by
      rw [readTokens] at hlast
      cases hresult : last.result with
      | none =>
        rw [hresult] at hlast
        cases hlast
      | some => rfl
    have hframes := hsettled.closed hresult
    rw [hframes] at hlength
    simpa using hlength.symm

theorem read_done (hdone : state.next = .done) : state.read interest token = none := by
  simp only [ReadState.read, hdone]

/-- No token stands in front of a document that begins with a brace. -/
theorem nil_of_readTokens {before rest : List Token} {value other : Json}
    (hown : readTokens interest ⟨[], .value, none⟩ ((.openObject :: rest).map some) = .ok value)
    (h : readTokens interest ⟨[], .value, none⟩ ((before ++ .openObject :: rest).map some) = .ok other) :
    before = [] := by
  have hrise := rise_eq_zero h
  rw [List.map_append, List.sum_append, rise_eq_zero hown, Int.add_zero] at hrise
  rw [List.map_append] at h
  obtain ⟨middle, hbefore, hrest⟩ := readTokens_append h
  obtain ⟨hlength, hend⟩ := readAll_depth (.inl rfl) hbefore
  rcases hend with ⟨hnil, -⟩ | hsettled
  · exact hnil
  · have hframes : middle.frames = [] := by
      rw [← List.length_eq_zero_iff]
      simpa [hrise] using hlength
    rw [List.map_cons, readTokens, read_done (hsettled.done hframes)] at hrest
    cases hrest

end Reading

/-! ### Where the scanner stands -/

namespace ScanState

/-- Inside of quotes. -/
def InString : ScanState → Prop
  | .string _ | .escape _ | .hex _ _ _ _ | .lowEscape _ _ | .lowHex _ _ => True
  | .voidString | .voidEscape | .voidHex _ => True
  | _ => False

/-- No brace is waited for in a word. -/
def Lettered : ScanState → Prop
  | .word rest _ => '\x7b' ∉ rest
  | _ => True

theorem InString.lettered {state : ScanState} (h : state.InString) : state.Lettered := by
  cases state <;> trivial

end ScanState

section Scanning

variable {state next : ScanState} {c : Char} {found : List Token}

theorem scanFrom_none (h : scanChar state c = none) (rest : List Char) :
    ∃ tokens : List Token, scanFrom state (c :: rest) = tokens.map some ++ [none] := by
  simp only [scanFrom, h]
  split
  · split
    · exact ⟨[_], rfl⟩
    · exact ⟨[], rfl⟩
  · exact ⟨[], rfl⟩

theorem inString_closeHex (taken : List Char) (high : Option Nat) (value : Nat) :
    (closeHex taken high value).InString := by
  unfold closeHex
  split
  · split
    · trivial
    · split <;> trivial
  · split <;> trivial

/-- Inside of quotes the scanner stays until the quotes are closed, which is a token. -/
def StaysInString (step : Option (ScanState × List Token)) : Prop :=
  ∀ next found, step = some (next, found) →
    next.InString ∧ found = [] ∨ next = .between ∧ found ≠ []

theorem StaysInString.goesOn {state : ScanState} (hstate : state.InString) :
    StaysInString (some (state, [])) := by
  rintro _ _ ⟨⟩
  exact .inl ⟨hstate, rfl⟩

theorem staysInString_none : StaysInString none := nofun

theorem StaysInString.map {α : Type} {f : α → ScanState} (hf : ∀ a, (f a).InString) (o : Option α) :
    StaysInString (o.map fun a => (f a, [])) := by
  intro next found h
  obtain ⟨a, -, ha⟩ := Option.map_eq_some_iff.1 h
  cases ha
  exact .inl ⟨hf a, rfl⟩

theorem staysInString_scanVoid (c : Char) : StaysInString (scanVoid c) := by
  unfold scanVoid
  split
  · rintro _ _ ⟨⟩
    exact .inr ⟨rfl, nofun⟩
  · split
    · exact .goesOn trivial
    · split
      · exact nofun
      · exact .goesOn trivial

theorem staysInString_scanVoidEscape (c : Char) : StaysInString (scanVoidEscape c) := by
  unfold scanVoidEscape
  split
  · exact .goesOn trivial
  · exact .map (f := fun _ => .voidString) (fun _ => trivial) _

theorem staysInString_scanChar (hstate : state.InString) (c : Char) :
    StaysInString (scanChar state c) := by
  cases state with
  | between | word | number => cases hstate
  | string taken =>
    rw [scanChar]
    split
    · rintro _ _ ⟨⟩
      exact .inr ⟨rfl, List.cons_ne_nil _ _⟩
    · split
      · exact .goesOn trivial
      · split
        · exact staysInString_none
        · exact .goesOn trivial
  | escape taken =>
    rw [scanChar]
    split
    · exact .goesOn trivial
    · exact .map (f := fun e => .string (e :: taken)) (fun _ => trivial) _
  | hex taken high digits value =>
    rw [scanChar]
    cases hexValue? c with
    | none => exact staysInString_none
    | some digit =>
      rw [Option.bind_eq_bind, Option.bind_some]
      split
      · exact .goesOn (inString_closeHex _ _ _)
      · exact .goesOn trivial
  | lowEscape taken high =>
    rw [scanChar]
    split
    · exact .goesOn trivial
    · exact staysInString_scanVoid c
  | lowHex taken high =>
    rw [scanChar]
    split
    · exact .goesOn trivial
    · exact staysInString_scanVoidEscape c
  | voidString => exact staysInString_scanVoid c
  | voidEscape => exact staysInString_scanVoidEscape c
  | voidHex digits =>
    refine .map (fun _ => ?_) _
    split <;> trivial

theorem lettered_startToken (h : startToken c = some (next, found)) : next.Lettered := by
  unfold startToken at h
  split at h
  all_goals try (cases h; simp [ScanState.Lettered])
  split at h
  · cases h
    trivial
  · obtain ⟨-, h⟩ := Option.ite_none_right_eq_some.1 h
    cases h
    trivial

theorem lettered_scanChar (hstate : state.Lettered) (h : scanChar state c = some (next, found)) :
    next.Lettered := by
  by_cases hinside : state.InString
  · rcases staysInString_scanChar hinside c next found h with ⟨hnext, -⟩ | ⟨rfl, -⟩
    · exact hnext.lettered
    · trivial
  cases state with
  | between => exact lettered_startToken h
  | word rest token =>
    rcases rest with _ | ⟨first, _ | ⟨second, rest⟩⟩
    · cases h
    · obtain ⟨-, h⟩ := Option.ite_none_right_eq_some.1 h
      cases h
      trivial
    · obtain ⟨-, h⟩ := Option.ite_none_right_eq_some.1 h
      cases h
      exact fun hmem => hstate (List.mem_cons_of_mem _ hmem)
  | number taken =>
    rw [scanChar] at h
    split at h
    · cases h
      trivial
    · obtain ⟨token, -, h⟩ := Option.bind_eq_some_iff.1 h
      obtain ⟨⟨started, tokens⟩, hstarted, h⟩ := Option.bind_eq_some_iff.1 h
      cases h
      exact lettered_startToken hstarted
  | _ => exact absurd trivial hinside

/-- Only a blank leads from between the tokens to between the tokens without a token. -/
theorem blank_of_scanChar (h : scanChar state c = some (.between, [])) :
    state = .between ∧ isBlankChar c = true := by
  by_cases hinside : state.InString
  · rcases staysInString_scanChar hinside c _ _ h with ⟨hnext, -⟩ | ⟨-, hfound⟩
    · cases hnext
    · exact absurd rfl hfound
  cases state with
  | between =>
    refine ⟨rfl, ?_⟩
    rw [scanChar] at h
    unfold startToken at h
    split at h <;> simp_all
  | word rest token =>
    rcases rest with _ | ⟨first, _ | ⟨second, rest⟩⟩
    · cases h
    · obtain ⟨-, h⟩ := Option.ite_none_right_eq_some.1 h
      cases h
    · obtain ⟨-, h⟩ := Option.ite_none_right_eq_some.1 h
      cases h
  | number taken =>
    rw [scanChar] at h
    split at h
    · cases h
    · obtain ⟨token, -, h⟩ := Option.bind_eq_some_iff.1 h
      obtain ⟨⟨started, tokens⟩, -, h⟩ := Option.bind_eq_some_iff.1 h
      cases h
  | _ => exact absurd trivial hinside

/-- Wherever the scanner is behind a text, it comes there without looking at what follows; or the text
breaks off. -/
theorem scanFrom_append (hstate : state.Lettered) (cs : List Char) :
    (∃ tokens : List Token, ∀ rest, scanFrom state (cs ++ rest) = tokens.map some ++ [none]) ∨
      ∃ (tokens : List Token) (last : ScanState), last.Lettered ∧
        (∀ rest, scanFrom state (cs ++ rest) = tokens.map some ++ scanFrom last rest) ∧
        (tokens = [] → last = .between → state = .between ∧ ∀ c ∈ cs, isBlankChar c = true) := by
  induction cs generalizing state with
  | nil => exact .inr ⟨[], state, hstate, fun _ => rfl, fun _ hlast => ⟨hlast, nofun⟩⟩
  | cons c cs ih =>
    cases hstep : scanChar state c with
    | none =>
      left
      obtain ⟨tokens, htokens⟩ := scanFrom_none hstep []
      refine ⟨tokens, fun rest => ?_⟩
      rw [← htokens, List.cons_append]
      simp only [scanFrom, hstep]
    | some step =>
      obtain ⟨next, found⟩ := step
      rcases ih (lettered_scanChar hstate hstep) with ⟨tokens, htokens⟩ | ⟨tokens, last, hlast, hscan, hblank⟩
      · left
        refine ⟨found ++ tokens, fun rest => ?_⟩
        rw [List.cons_append, scanFrom_cons hstep, htokens, List.map_append, List.append_assoc]
      · right
        refine ⟨found ++ tokens, last, hlast, fun rest => ?_, fun hnil hbetween => ?_⟩
        · rw [List.cons_append, scanFrom_cons hstep, hscan, List.map_append, List.append_assoc]
        · obtain ⟨rfl, rfl⟩ := List.append_eq_nil_iff.1 hnil
          obtain ⟨rfl, hcs⟩ := hblank rfl hbetween
          obtain ⟨rfl, hc⟩ := blank_of_scanChar hstep
          exact ⟨rfl, List.forall_mem_cons.2 ⟨hc, hcs⟩⟩

/-- The brace and the quote that an object begins with end whatever is unfinished in front of them: no
token begins behind the quote. -/
theorem scanFrom_brace (hstate : state.Lettered) (hc : startToken c = none) (rest : List Char) :
    (∃ tokens : List Token,
        scanFrom state ('\x7b' :: '"' :: c :: rest) = tokens.map some ++ [none]) ∨
      ∃ tokens : List Token, scanFrom state ('\x7b' :: '"' :: c :: rest) =
          tokens.map some ++ scanFrom .between ('\x7b' :: '"' :: c :: rest) ∧
        (tokens = [] → state = .between) := by
  have hclosed (found : List Token) : ∃ tokens : List Token,
      found.map some ++ scanFrom .between (c :: rest) = tokens.map some ++ [none] := by
    have hstop : scanChar .between c = none := hc
    exact ⟨found, by simp only [scanFrom, hstop]⟩
  cases state with
  | between => exact .inr ⟨[], rfl, fun _ => rfl⟩
  | word letters token =>
    left
    apply scanFrom_none
    rcases letters with _ | ⟨first, _ | ⟨second, letters⟩⟩
    · rfl
    · exact if_neg (by rintro rfl; exact hstate List.mem_cons_self)
    · exact if_neg (by rintro rfl; exact hstate List.mem_cons_self)
  | number taken =>
    cases htoken : numberToken? taken.reverse with
    | none =>
      left
      apply scanFrom_none
      simp [scanChar, htoken, show isNumberChar '\x7b' = false from rfl]
    | some token =>
      right
      refine ⟨[token], ?_, fun h => absurd h (List.cons_ne_nil _ _)⟩
      have hstep : scanChar (.number taken) '\x7b' = some (.between, [token, .openObject]) := by
        simp [scanChar, htoken, show isNumberChar '\x7b' = false from rfl, startToken]
      rw [scanFrom_cons hstep]
      rfl
  | string taken => exact .inl (hclosed [_])
  | voidString => exact .inl (hclosed [.void])
  | lowEscape taken high => exact .inl (hclosed [.void])
  | escape | hex | lowHex | voidEscape | voidHex => exact .inl (scanFrom_none rfl _)

end Scanning

/-- Nothing but blanks stands in front of the text of an object. -/
theorem blank_of_readFor {interest : Interest} {j other : Json} (hj : Readable depthLimit j) {c : Char}
    {rest : List Char} (htext : j.text = '\x7b' :: '"' :: c :: rest) (hc : startToken c = none) {cs : List Char}
    (hread : readFor interest (cs ++ j.text) = .ok other) : ∀ c ∈ cs, isBlankChar c = true := by
  have hbroken {tokens : List Token} :
      readTokens interest ⟨[], .value, none⟩ (tokens.map some ++ [none]) ≠ .ok other := by
    intro h
    obtain ⟨next, -, hnext⟩ := readTokens_append h
    cases hnext
  rw [readFor, scan] at hread
  have hstart : ScanState.between.Lettered := trivial
  rcases scanFrom_append hstart cs with
    ⟨tokens, hscan⟩ | ⟨tokens, last, hlast, hscan, hblank⟩
  · rw [hscan] at hread
    exact absurd hread hbroken
  rw [hscan, htext] at hread
  rcases scanFrom_brace hlast hc rest with ⟨more, hmore⟩ | ⟨more, hmore, hbetween⟩
  · rw [hmore, ← List.append_assoc, ← List.map_append] at hread
    exact absurd hread hbroken
  rw [hmore, ← htext, ← scan, scan_text hj, ← List.append_assoc, ← List.map_append,
    ← List.map_append] at hread
  have hown := readFor_text interest hj
  rw [readFor, scan_text hj] at hown
  obtain ⟨inner, hinner⟩ : ∃ inner, j.tokens = .openObject :: inner := by
    have hfirst : j.tokens.map some = some .openObject :: scanFrom .between ('"' :: c :: rest) := by
      rw [← scan_text hj, htext]
      rfl
    obtain ⟨token, inner, htokens, htoken, -⟩ := List.map_eq_cons_iff.1 hfirst
    cases htoken
    exact ⟨inner, htokens⟩
  rw [hinner] at hown hread
  obtain ⟨rfl, rfl⟩ := List.append_eq_nil_iff.1 (nil_of_readTokens hown hread)
  exact (hblank rfl (hbetween rfl)).2

end Governance.Json
