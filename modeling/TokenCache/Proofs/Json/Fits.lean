import TokenCache.Json.Reader
import TokenCache.Proofs.Json.Numerals
/-!
# Values that a text gives

What a text gives is not nested deeper than the limit, has each key of an object once, and has no whole number beyond 64
bits and no double that is infinite or none (`parse_proper`).  The machine keeps this of the values that it has read: a
step hands a value only to a container with room for it (`step_proper`).
-/
namespace TokenCache
namespace Json

/-- **Values nested in `room` containers at most**, with each key of an object once, and numbers of which `P` holds. -/
inductive Within (P : Number → Prop) : Nat → Json → Prop
  | null {room : Nat} : Within P room .null
  | bool {room : Nat} (b : Bool) : Within P room (.bool b)
  | number {room : Nat} {n : Number} (h : P n) : Within P room (.number n)
  | string {room : Nat} (s : String) : Within P room (.string s)
  | array {room : Nat} {items : List Json} (h : ∀ v ∈ items, Within P room v) : Within P (room + 1) (.array items)
  | object {room : Nat} {members : Members} (hk : members.keys.Nodup) (h : ∀ m ∈ members, Within P room m.2) :
    Within P (room + 1) (.object members)

theorem Within.mono {P Q : Number → Prop} (hq : ∀ n, P n → Q n) {room : Nat} {v : Json} (h : Within P room v) :
    Within Q room v := by
  induction h with
  | null => exact .null
  | bool b => exact .bool b
  | number h => exact .number (hq _ h)
  | string s => exact .string s
  | array _ ih => exact .array ih
  | object hk _ ih => exact .object hk ih

/-- **Values that fit in `room` containers.** -/
abbrev Fits (room : Nat) (v : Json) : Prop :=
  Within Number.Fits room v

/-- **Values that a text really gives**, in room for `room` containers: every number in them is proper too. -/
abbrev Proper (room : Nat) (v : Json) : Prop :=
  Within Number.Proper room v

theorem Proper.fits {room : Nat} {v : Json} (h : Proper room v) : Fits room v :=
  h.mono fun _ => Number.Proper.fits

end Json

theorem Members.mem_insert {key : String} {value : Json} {m : String × Json} : ∀ {ms : Members},
    m ∈ Members.insert key value ms → m = (key, value) ∨ m ∈ ms
  | [], h => .inl (List.mem_singleton.1 h)
  | m' :: ms, h => by
    unfold Members.insert at h
    split at h
    · exact (List.mem_cons.1 h).imp id (List.mem_cons_of_mem m')
    · rcases List.mem_cons.1 h with rfl | h
      · exact .inr List.mem_cons_self
      · exact (mem_insert h).imp id (List.mem_cons_of_mem m')

namespace Json

/-! ## The machine's state -/

/-- The values in an open container are proper in `room`. -/
def Frame.Proper (room : Nat) : Frame → Prop
  | .array before => ∀ v ∈ before, v.Proper room
  | .member before _ => before.keys.Nodup ∧ ∀ m ∈ before, m.2.Proper room

/-- Each container has the room that those around it leave. -/
def FramesProper : List Frame → Prop
  | [] => True
  | f :: frames => frames.length < depthLimit ∧ f.Proper (depthLimit - (frames.length + 1)) ∧ FramesProper frames

/-- **What the machine has read is proper.** -/
def State.Proper : State → Prop
  | .value frames => FramesProper frames
  | .firstElement frames => FramesProper (.array [] :: frames)
  | .nextElement before frames | .afterElement before frames => FramesProper (.array before :: frames)
  | .firstKey frames => FramesProper (.member [] "" :: frames)
  | .nextKey before frames | .afterMember before frames => FramesProper (.member before "" :: frames)
  | .colon before key frames => FramesProper (.member before key :: frames)
  | .done v => v.Proper depthLimit

/-- A token that is a value is proper anywhere. -/
def Token.Proper (t : Token) : Prop :=
  ∀ v room, t = .scalar v → v.Proper room

theorem close_proper {v : Json} : ∀ {frames : List Frame}, FramesProper frames → v.Proper (depthLimit - frames.length) →
    (State.close v frames).Proper
  | [], _, hv => hv
  | .array _ :: _, ⟨hd, hb, hf⟩, hv => by
    refine ⟨hd, fun w hw => ?_, hf⟩
    rcases List.mem_cons.1 hw with rfl | hw
    · exact hv
    · exact hb w hw
  | .member before key :: _, ⟨hd, ⟨hk, hb⟩, hf⟩, hv => by
    refine ⟨hd, ⟨Members.nodup_keys_insert key v hk, fun m hm => ?_⟩, hf⟩
    rcases Members.mem_insert hm with rfl | hm
    · exact hv
    · exact hb m hm

/-- A container that is closed is proper in the room that those around it leave. -/
theorem close_array_proper {items : List Json} {frames : List Frame} (h : FramesProper (.array items :: frames)) :
    (State.close (.array items.reverse) frames).Proper := by
  obtain ⟨hd, hb, hf⟩ := h
  refine close_proper hf ?_
  rw [show depthLimit - frames.length = depthLimit - (frames.length + 1) + 1 by omega]
  exact .array fun v hv => hb v (List.mem_reverse.1 hv)

theorem close_object_proper {members : Members} {key : String} {frames : List Frame}
    (h : FramesProper (.member members key :: frames)) : (State.close (.object members) frames).Proper := by
  obtain ⟨hd, ⟨hk, hb⟩, hf⟩ := h
  refine close_proper hf ?_
  rw [show depthLimit - frames.length = depthLimit - (frames.length + 1) + 1 by omega]
  exact .object hk hb

theorem begin_proper {frames : List Frame} {x : Lexeme} {s : State} (hf : FramesProper frames) (hx : x.token.Proper)
    (h : State.begin frames x = .ok s) : s.Proper := by
  unfold State.begin at h
  split at h
  · split at h
    · rename_i hd
      cases h
      exact ⟨hd, nofun, hf⟩
    · cases h
  · split at h
    · rename_i hd
      cases h
      exact ⟨hd, ⟨List.nodup_nil, nofun⟩, hf⟩
    · cases h
  · cases h
    exact close_proper hf (.string _)
  · rename_i v hv
    cases h
    exact close_proper hf (hx v _ hv)
  · cases h
  · cases h

theorem takeKey_proper {before : Members} {key : String} {frames : List Frame} {x : Lexeme} {s : State}
    (hf : FramesProper (.member before key :: frames)) (h : State.takeKey before frames x = .ok s) : s.Proper := by
  unfold State.takeKey at h
  split at h
  · cases h
    exact hf
  · cases h
  · cases h

/-- **A step keeps what was read proper.** -/
theorem step_proper {s s' : State} {x : Lexeme} (hs : s.Proper) (hx : x.token.Proper) (h : s.step x = .ok s') :
    s'.Proper := by
  cases s with
  | value frames => exact begin_proper hs hx h
  | firstElement frames =>
    unfold State.step at h
    dsimp only at h
    split at h
    · cases h
      exact close_array_proper hs
    · exact begin_proper hs hx h
  | nextElement before frames =>
    unfold State.step at h
    dsimp only at h
    split at h
    · cases h
    · exact begin_proper hs hx h
  | afterElement before frames =>
    unfold State.step at h
    dsimp only at h
    split at h
    · cases h
      exact close_array_proper hs
    · cases h
      exact hs
    · cases h
  | firstKey frames =>
    unfold State.step at h
    dsimp only at h
    split at h
    · cases h
      exact close_object_proper hs
    · exact takeKey_proper hs h
  | nextKey before frames =>
    unfold State.step at h
    dsimp only at h
    split at h
    · cases h
    · exact takeKey_proper hs h
  | colon before key frames =>
    unfold State.step at h
    dsimp only at h
    split at h
    · cases h
      exact hs
    · cases h
  | afterMember before frames =>
    unfold State.step at h
    dsimp only at h
    split at h
    · cases h
      exact close_object_proper hs
    · cases h
      exact hs
    · cases h
  | done v => cases h

/-! ## The tokens -/

theorem scanName_eq {v w : Json} : ∀ {name bytes rest : List UInt8}, scanName v name bytes = .ok (w, rest) → w = v
  | [], _, _, h => by
    cases h
    rfl
  | _ :: _, [], _, h => by cases h
  | a :: name, b :: bytes, rest, h => by
    unfold scanName at h
    split at h
    · exact scanName_eq h
    · cases h

theorem tokenOf_proper {α : Type} {quoted : Bool} {f : α → Token} {scan : Except Fault (α × List UInt8)}
    (h : ∀ a rest, scan = .ok (a, rest) → (f a).Proper) : (tokenOf quoted f scan).1.Proper := by
  unfold tokenOf
  split
  · exact h _ _ rfl
  · exact fun _ _ ht => by cases ht

theorem scanToken_proper (b : UInt8) (rest : List UInt8) : (scanToken b rest).1.Proper := by
  have hname : ∀ {v name}, (∀ room, Proper room v) → (tokenOf false .scalar (scanName v name rest)).1.Proper := by
    intro v name hv
    refine tokenOf_proper fun w after hw u room hu => ?_
    cases hu
    exact scanName_eq hw ▸ hv room
  unfold scanToken
  split
  iterate 6 · exact fun _ _ ht => by cases ht
  · exact tokenOf_proper fun s after _ v room hv => by cases hv
  · exact hname fun _ => .null
  · exact hname fun _ => .bool true
  · exact hname fun _ => .bool false
  · split
    · refine tokenOf_proper fun n after hn v room hv => ?_
      cases hv
      exact .number (scanNumeral_proper _ _ _ hn)
    · exact fun _ _ ht => by cases ht

theorem lexemesWithin_proper : ∀ (n : Nat) (bytes : List UInt8), ∀ x ∈ lexemesWithin n bytes, x.token.Proper
  | 0, _, x, hx => by cases hx
  | n + 1, bytes, x, hx => by
    unfold lexemesWithin at hx
    split at hx
    · cases hx
    · rename_i b rest _
      rcases List.mem_cons.1 hx with rfl | hx
      · exact scanToken_proper b rest
      · exact lexemesWithin_proper n _ x hx

/-! ## Reading -/

theorem foldlM_proper : ∀ (xs : List Lexeme) (s s' : State), s.Proper → (∀ x ∈ xs, x.token.Proper) →
    xs.foldlM State.step s = .ok s' → s'.Proper
  | [], s, s', hs, _, h => by
    cases h
    exact hs
  | x :: xs, s, s', hs, hx, h => by
    rw [List.foldlM_cons] at h
    cases hn : s.step x with
    | error e => rw [hn] at h; cases h
    | ok next =>
      rw [hn] at h
      have hnext := step_proper hs (hx x List.mem_cons_self) hn
      exact foldlM_proper xs next s' hnext (fun y hy => hx y (List.mem_cons_of_mem x hy)) h

/-- **What a text gives is proper.** -/
theorem parse_proper {bytes : List UInt8} {v : Json} (h : parse bytes = .ok v) : v.Proper depthLimit := by
  unfold parse at h
  split at h
  · rename_i w hr
    cases h
    unfold read at hr
    cases hf : (lexemes bytes).foldlM State.step (.value []) with
    | error e => rw [hf] at hr; cases hr
    | ok s =>
      rw [hf] at hr
      have hs : s.Proper := foldlM_proper _ (.value []) s trivial (lexemesWithin_proper _ _) hf
      cases s with
      | done w =>
        cases hr
        exact hs
      | _ => cases hr
  · cases h

theorem parse_fits {bytes : List UInt8} {v : Json} (h : parse bytes = .ok v) : v.Fits depthLimit :=
  (parse_proper h).fits

end Json
end TokenCache
