import TokenCache.Proofs.Json.Fits
import TokenCache.Proofs.Json.Reals
import TokenCache.Proofs.Json.Strings
/-!
# Reading what was written

Every value that a text gives is read again from its pretty form, and only doubles may change on the way
(`parse_pretty_reread`); so a value without doubles is read back as it was (`parse_pretty`).  `Reads` follows the
machine over the bytes of one piece, whatever comes after it: pieces are put together by `Reads.append`, and the piece
that a value is written as takes the machine from where the value may start to where it is closed (`written`).
-/
namespace TokenCache

/-- A number as its numeral is read. -/
def Number.reread (n : Number) : Number :=
  match Json.scanNumeral (Json.numeral n) with
  | .ok (m, _) => m
  | .error _ => n

namespace Json

mutual

/-- **A value with each number as its numeral is read.** -/
def reread : Json → Json
  | number n => .number n.reread
  | array items => .array (rereadItems items)
  | object members => .object (rereadMembers members)
  | v => v

def rereadItems : List Json → List Json
  | [] => []
  | v :: items => reread v :: rereadItems items

def rereadMembers : List (String × Json) → List (String × Json)
  | [] => []
  | (key, v) :: members => (key, reread v) :: rereadMembers members

end

/-- **Values without doubles.** -/
inductive Whole : Json → Prop
  | null : Whole .null
  | bool (b : Bool) : Whole (.bool b)
  | integer (n : Int) : Whole (.number (.integer n))
  | string (s : String) : Whole (.string s)
  | array {items : List Json} (h : ∀ v ∈ items, Whole v) : Whole (.array items)
  | object {members : Members} (h : ∀ m ∈ members, Whole m.2) : Whole (.object members)

/-! ## Numbers and values read again -/

theorem rereadItems_eq : ∀ items : List Json, rereadItems items = items.map reread
  | [] => rfl
  | v :: items => by rw [rereadItems, rereadItems_eq items, List.map_cons]

theorem rereadMembers_eq : ∀ members : List (String × Json),
    rereadMembers members = members.map fun m => (m.1, m.2.reread)
  | [] => rfl
  | (key, v) :: members => by rw [rereadMembers, rereadMembers_eq members, List.map_cons]

theorem keys_rereadMembers (members : Members) : Members.keys (rereadMembers members) = members.keys := by
  rw [rereadMembers_eq]
  unfold Members.keys
  rw [List.map_map]
  rfl

theorem get?_rereadMembers (key : String) : ∀ members : Members,
    Members.get? (rereadMembers members) key = (members.get? key).map reread
  | [] => rfl
  | (k, v) :: members => by
    rw [rereadMembers, Members.get?_cons, Members.get?_cons, get?_rereadMembers key members]
    dsimp only
    split <;> rfl

/-- **Every number that a text gives can be read again.** -/
theorem scanNumeral_reread {n : Number} (hn : n.Proper) : ∃ b bytes, numeral n = b :: bytes ∧
    (b = 45 ∨ isDigit b = true) ∧ ∀ rest, Apart rest → scanNumeral (b :: bytes ++ rest) = .ok (n.reread, rest) := by
  -- what is read does not depend on what comes after it
  have hscan : ∃ b bytes m, numeral n = b :: bytes ∧ (b = 45 ∨ isDigit b = true) ∧
      ∀ rest, Apart rest → scanNumeral (b :: bytes ++ rest) = .ok (m, rest) := by
    cases n with
    | real x =>
      obtain ⟨b, bytes, y, he, hb, hs⟩ := scanNumeral_real hn
      exact ⟨b, bytes, .real y, he, hb, hs⟩
    | integer n =>
      obtain ⟨b, bytes, he, hb, -⟩ := scanNumeral_numeral hn [] nofun
      refine ⟨b, bytes, .integer n, he, hb, fun rest hr => ?_⟩
      obtain ⟨b', bytes', he', -, hs⟩ := scanNumeral_numeral hn rest hr
      cases he.symm.trans he'
      exact hs
  obtain ⟨b, bytes, m, he, hb, hs⟩ := hscan
  have hread : n.reread = m := by
    have h := hs [] nofun
    rw [List.append_nil, ← he] at h
    unfold Number.reread
    rw [h]
  exact ⟨b, bytes, he, hb, hread ▸ hs⟩

theorem reread_integer {n : Int} (hn : (Number.integer n).Proper) : (Number.integer n).reread = .integer n := by
  obtain ⟨b, bytes, he, -, hs⟩ := scanNumeral_numeral hn [] nofun
  rw [List.append_nil, ← he] at hs
  unfold Number.reread
  rw [hs]

/-- A value without doubles is not changed by it. -/
theorem reread_whole {room : Nat} {v : Json} (hf : Fits room v) (hw : Whole v) : Proper room v ∧ v.reread = v := by
  induction hf with
  | null => exact ⟨.null, rfl⟩
  | bool b => exact ⟨.bool b, rfl⟩
  | string s => exact ⟨.string s, rfl⟩
  | number hn =>
    cases hw
    exact ⟨.number hn, congrArg Json.number (reread_integer hn)⟩
  | array _ ih =>
    cases hw with
    | array hw =>
      refine ⟨.array fun v hv => (ih v hv (hw v hv)).1, ?_⟩
      rw [reread, rereadItems_eq, List.map_congr_left fun v hv => (ih v hv (hw v hv)).2, List.map_id']
  | @object room members hk _ ih =>
    cases hw with
    | object hw =>
      refine ⟨.object hk fun m hm => (ih m hm (hw m hm)).1, ?_⟩
      have hsame : ∀ m ∈ members, (m.1, m.2.reread) = m := fun m hm => by rw [(ih m hm (hw m hm)).2]
      rw [reread, rereadMembers_eq, List.map_congr_left hsame, List.map_id']

/-! ## The machine over a piece of text -/

/-- **Over these bytes the machine goes from `s` to `s'`**, if what comes after them does not go on with a numeral. -/
def Reads (bytes : List UInt8) (s s' : State) : Prop :=
  ∀ (rest : List UInt8) (n : Nat), Apart rest → (bytes ++ rest).length ≤ n → ∃ m, rest.length ≤ m ∧
    (lexemesWithin n (bytes ++ rest)).foldlM State.step s = (lexemesWithin m rest).foldlM State.step s'

theorem apart_cons {b : UInt8} (h : isDigit b = false ∧ b ≠ 46 ∧ b ≠ 101 ∧ b ≠ 69) (bytes : List UInt8) :
    Apart (b :: bytes) := by
  intro c hc
  cases hc
  exact h

theorem Apart.append {bytes rest : List UInt8} (h : Apart bytes) (hr : Apart rest) : Apart (bytes ++ rest) := by
  cases bytes with
  | nil => exact hr
  | cons b bytes => exact apart_cons (h b rfl) _

/-- **One piece after another.** -/
theorem Reads.append {bytes more : List UInt8} {s s' s'' : State} (h : Reads bytes s s') (h' : Reads more s' s'')
    (hm : Apart more) : Reads (bytes ++ more) s s'' := by
  intro rest n hr hn
  rw [List.append_assoc] at hn ⊢
  obtain ⟨m, hle, he⟩ := h (more ++ rest) n (hm.append hr) hn
  obtain ⟨k, hk, he'⟩ := h' rest m hr hle
  exact ⟨k, hk, he.trans he'⟩

/-- **One token** is one step. -/
theorem reads_token {b : UInt8} {after : List UInt8} {t : Token} {s s' : State} (hb : isSpace b = false)
    (ht : ∀ rest, Apart rest → scanToken b (after ++ rest) = (t, rest)) (hs : ∀ bytes, s.step ⟨t, bytes⟩ = .ok s') :
    Reads (b :: after) s s' := by
  intro rest n hr hn
  rw [List.cons_append, List.length_cons, List.length_append] at hn
  cases n with
  | zero => omega
  | succ n =>
    refine ⟨n, by omega, ?_⟩
    rw [List.cons_append, lexemesWithin, List.dropWhile_cons, hb]
    simp only [Bool.false_eq_true, if_false, ht rest hr, List.foldlM_cons, hs]
    rfl

/-- Spaces do not count. -/
theorem reads_spaces {spaces bytes : List UInt8} {s s' : State} (hs : ∀ b ∈ spaces, isSpace b = true)
    (h : Reads bytes s s') : Reads (spaces ++ bytes) s s' := by
  intro rest n hr hn
  rw [List.append_assoc, List.length_append] at hn
  obtain ⟨m, hm, he⟩ := h rest n hr (by omega)
  refine ⟨m, hm, ?_⟩
  rw [← he, List.append_assoc]
  cases n with
  | zero => rfl
  | succ n => rw [lexemesWithin, lexemesWithin, List.dropWhile_append_of_pos hs]

theorem isSpace_newLine (depth : Nat) : ∀ b ∈ newLine depth, isSpace b = true := by
  intro b hb
  rcases List.mem_cons.1 hb with rfl | hb
  · rfl
  · rw [List.eq_of_mem_replicate hb]
    rfl

/-! ## Tokens that are values -/

/-- The machine waits for a value, or for a value or the end of an array. -/
def Awaits (s : State) (frames : List Frame) : Prop :=
  ∀ x : Lexeme, x.token ≠ .closeArray → s.step x = State.begin frames x

theorem awaits_value (frames : List Frame) : Awaits (.value frames) frames :=
  fun _ _ => rfl

theorem awaits_firstElement (frames : List Frame) : Awaits (.firstElement frames) (.array [] :: frames) := by
  intro x hx
  unfold State.step
  dsimp only
  split
  · rename_i h
    exact absurd h hx
  · rfl

theorem awaits_nextElement (before : List Json) (frames : List Frame) :
    Awaits (.nextElement before frames) (.array before :: frames) := by
  intro x hx
  unfold State.step
  dsimp only
  split
  · rename_i h
    exact absurd h hx
  · rfl

section
variable {s : State} {frames : List Frame}

theorem reads_scalar {b : UInt8} {after : List UInt8} {v : Json} (hs : Awaits s frames) (hb : isSpace b = false)
    (ht : ∀ rest, Apart rest → scanToken b (after ++ rest) = (.scalar v, rest)) :
    Reads (b :: after) s (State.close v frames) :=
  reads_token hb ht fun bytes => hs ⟨.scalar v, bytes⟩ nofun

theorem scanToken_quoted (text : String) (rest : List UInt8) :
    scanToken 34 ((Utf8.encode text).flatMap escaped ++ [34] ++ rest) = (.text text, rest) := by
  have h : ∀ bytes, scanToken 34 bytes = tokenOf true .text (scanString bytes) := fun _ => rfl
  rw [h, List.append_assoc, List.singleton_append, scanString_quoted]
  rfl

theorem quoted_eq (text : String) : quoted text = 34 :: ((Utf8.encode text).flatMap escaped ++ [34]) :=
  rfl

theorem reads_string (hs : Awaits s frames) (text : String) :
    Reads (quoted text) s (State.close (.string text) frames) := by
  rw [quoted_eq]
  exact reads_token (t := .text text) rfl (fun rest _ => scanToken_quoted text rest)
    fun bytes => hs ⟨.text text, bytes⟩ nofun

/-- A numeral opens with a byte that no other token opens with. -/
theorem scanToken_numeral {b : UInt8} (hb : b = 45 ∨ isDigit b = true) (rest : List UInt8) :
    scanToken b rest = tokenOf false (fun n => .scalar (.number n)) (scanNumeral (b :: rest)) ∧ isSpace b = false := by
  have hn : ∀ c : UInt8, c ≠ 45 → isDigit c = false → b ≠ c := by
    rintro c h45 hd rfl
    rcases hb with h | h
    · exact h45 h
    · rw [hd] at h
      cases h
  constructor
  · unfold scanToken
    split
    iterate 10 · exact absurd rfl (hn _ (by decide) (by decide))
    rw [if_pos (by simpa using hb)]
  · simp only [isSpace, Bool.or_eq_false_iff, beq_eq_false_iff_ne]
    exact ⟨⟨⟨hn 32 (by decide) (by decide), hn 9 (by decide) (by decide)⟩, hn 10 (by decide) (by decide)⟩,
      hn 13 (by decide) (by decide)⟩

theorem reads_number {n : Number} (hs : Awaits s frames) (hn : n.Proper) :
    Reads (numeral n) s (State.close (.number n.reread) frames) := by
  obtain ⟨b, after, he, hb, hscan⟩ := scanNumeral_reread hn
  rw [he]
  refine reads_scalar hs (scanToken_numeral hb []).2 fun rest hr => ?_
  rw [(scanToken_numeral hb _).1, ← List.cons_append, hscan rest hr]
  rfl

end

/-! ## Elements and members -/

theorem reads_comma {s s' : State} (hs : ∀ bytes, s.step ⟨.comma, bytes⟩ = .ok s') : Reads [44] s s' :=
  reads_token rfl (fun _ _ => rfl) hs

theorem apart_comma (bytes : List UInt8) : Apart (44 :: bytes) :=
  apart_cons (by decide) bytes

theorem apart_newLine (depth : Nat) (bytes : List UInt8) : Apart (newLine depth ++ bytes) :=
  apart_cons (by decide) _

theorem apart_items (depth : Nat) : ∀ items : List Json, Apart (prettyItems depth items)
  | [] => nofun
  | [_] => apart_newLine depth _
  | v :: w :: items => by
    rw [prettyItems, List.append_assoc]
    exact apart_newLine depth _

theorem apart_members (depth : Nat) : ∀ members : List (String × Json), Apart (prettyMembers depth members)
  | [] => nofun
  | [(key, v)] => by
    rw [prettyMembers, List.append_assoc]
    exact apart_newLine depth _
  | (key, v) :: m :: members => by
    rw [prettyMembers, List.append_assoc, List.append_assoc]
    exact apart_newLine depth _

/-- **The pretty form of a value** takes the machine from where the value may start to where it is closed. -/
def Written (depth : Nat) (v : Json) (frames : List Frame) : Prop :=
  ∀ s, Awaits s frames → Reads (prettyWithin depth v) s (State.close v.reread frames)

/-- Elements go to the array around them, the last first. -/
theorem reads_items {depth : Nat} {frames : List Frame} : ∀ (items before : List Json) (s : State),
    Awaits s (.array before :: frames) → items ≠ [] →
    (∀ v ∈ items, ∀ before, Written depth v (.array before :: frames)) →
    Reads (prettyItems depth items) s (.afterElement ((rereadItems items).reverse ++ before) frames)
  | [], _, _, _, hne, _ => absurd rfl hne
  | [v], before, s, hs, _, h => reads_spaces (isSpace_newLine depth) (h v List.mem_cons_self before s hs)
  | v :: w :: items, before, s, hs, _, h => by
    have hv := reads_spaces (isSpace_newLine depth) (h v List.mem_cons_self before s hs)
    have hc : Reads [44] (.afterElement (v.reread :: before) frames) (.nextElement (v.reread :: before) frames) :=
      reads_comma fun _ => rfl
    have hi := reads_items (w :: items) (v.reread :: before) _ (awaits_nextElement (v.reread :: before) frames)
      (List.cons_ne_nil _ _) fun u hu => h u (List.mem_cons_of_mem v hu)
    rw [rereadItems, List.reverse_cons, List.append_assoc, List.singleton_append]
    exact hv.append (hc.append hi (apart_items _ _)) (apart_comma _)

/-- The machine waits for a key, or for a key or the end of an object. -/
def AwaitsKey (s : State) (before : Members) (frames : List Frame) : Prop :=
  ∀ x : Lexeme, x.token ≠ .closeObject → s.step x = State.takeKey before frames x

theorem awaitsKey_firstKey (frames : List Frame) : AwaitsKey (.firstKey frames) [] frames := by
  intro x hx
  unfold State.step
  dsimp only
  split
  · rename_i h
    exact absurd h hx
  · rfl

theorem awaitsKey_nextKey (before : Members) (frames : List Frame) :
    AwaitsKey (.nextKey before frames) before frames := by
  intro x hx
  unfold State.step
  dsimp only
  split
  · rename_i h
    exact absurd h hx
  · rfl

theorem reads_key {s : State} {before : Members} {frames : List Frame} (hs : AwaitsKey s before frames) (key : String) :
    Reads (quoted key) s (.colon before key frames) := by
  rw [quoted_eq]
  exact reads_token (t := .text key) rfl (fun rest _ => scanToken_quoted key rest)
    fun bytes => hs ⟨.text key, bytes⟩ nofun

end Json

theorem Members.insert_of_not_mem {key : String} {value : Json} : ∀ {ms : Members}, key ∉ ms.keys →
    Members.insert key value ms = ms ++ [(key, value)]
  | [], _ => rfl
  | m :: ms, h => by
    have hm : m.1 ≠ key := fun he => h (he ▸ List.mem_cons_self)
    rw [Members.insert, if_neg (by simpa using hm), insert_of_not_mem fun hk => h (List.mem_cons_of_mem _ hk)]
    rfl

namespace Json

theorem reads_member {depth : Nat} {frames : List Frame} {s : State} {before : Members} {key : String} {v : Json}
    (hs : AwaitsKey s before frames) (hk : key ∉ before.keys) (hv : Written depth v (.member before key :: frames)) :
    Reads (newLine depth ++ quoted key ++ 58 :: 32 :: prettyWithin depth v) s
      (.afterMember (before ++ [(key, v.reread)]) frames) := by
  have hkey := reads_spaces (isSpace_newLine depth) (reads_key hs key)
  have hcolon : Reads [58] (.colon before key frames) (.value (.member before key :: frames)) :=
    reads_token (t := .colon) rfl (fun _ _ => rfl) fun _ => rfl
  have hvalue : Reads (32 :: prettyWithin depth v) (.value (.member before key :: frames))
      (.afterMember (before ++ [(key, v.reread)]) frames) := by
    have h := hv (.value (.member before key :: frames)) (awaits_value _)
    rw [State.close, Members.insert_of_not_mem hk] at h
    have hspace : ∀ b ∈ [(32 : UInt8)], isSpace b = true := by simp [isSpace]
    exact reads_spaces hspace h
  exact hkey.append (hcolon.append hvalue (apart_cons (by decide) _)) (apart_cons (by decide) _)

/-- Members go to the object around them, in their order. -/
theorem reads_members {depth : Nat} {frames : List Frame} : ∀ (members before : Members) (s : State),
    AwaitsKey s before frames → members ≠ [] → (before ++ members).keys.Nodup →
    (∀ m ∈ members, ∀ before, Written depth m.2 (.member before m.1 :: frames)) →
    Reads (prettyMembers depth members) s (.afterMember (before ++ rereadMembers members) frames)
  | [], _, _, _, hne, _, _ => absurd rfl hne
  | [(key, v)], before, s, hs, _, hk, h => by
    refine reads_member hs (fun hm => ?_) (h (key, v) List.mem_cons_self before)
    unfold Members.keys at hk hm
    rw [List.map_append, List.nodup_append] at hk
    exact hk.2.2 key hm key (by simp) rfl
  | (key, v) :: m :: members, before, s, hs, _, hk, h => by
    have hfresh : key ∉ before.keys := fun hm => by
      unfold Members.keys at hk hm
      rw [List.map_append, List.nodup_append] at hk
      exact hk.2.2 key hm key (by simp) rfl
    have hm := reads_member hs hfresh (h (key, v) List.mem_cons_self before)
    have hc : Reads [44] (.afterMember (before ++ [(key, v.reread)]) frames)
        (.nextKey (before ++ [(key, v.reread)]) frames) :=
      reads_comma fun _ => rfl
    have hsplit : before ++ rereadMembers ((key, v) :: m :: members) =
        before ++ [(key, v.reread)] ++ rereadMembers (m :: members) := by simp [rereadMembers]
    have hk' : Members.keys (before ++ [(key, v.reread)] ++ m :: members) |>.Nodup := by
      simpa [Members.keys] using hk
    have hi := reads_members (m :: members) (before ++ [(key, v.reread)]) _ (awaitsKey_nextKey _ frames)
      (List.cons_ne_nil _ _) hk' fun u hu => h u (List.mem_cons_of_mem _ hu)
    rw [hsplit]
    exact hm.append (hc.append hi (apart_members _ _)) (apart_comma _)

/-! ## Values -/

theorem reads_open {b : UInt8} {t : Token} {s s' : State} {frames : List Frame} (hs : Awaits s frames)
    (hb : isSpace b = false) (ht : ∀ rest, scanToken b rest = (t, rest)) (hn : t ≠ .closeArray)
    (h : ∀ bytes, State.begin frames ⟨t, bytes⟩ = .ok s') : Reads [b] s s' :=
  reads_token hb (fun rest _ => ht rest) fun bytes => (hs ⟨t, bytes⟩ hn).trans (h bytes)

/-- **Every value that a text gives is written** so that the machine reads it, wherever there is room for it. -/
theorem written {room : Nat} {v : Json} (h : Proper room v) : ∀ (depth : Nat) (frames : List Frame),
    frames.length + room ≤ depthLimit → Written depth v frames := by
  induction h with
  | null => exact fun _ _ _ s hs => reads_scalar hs rfl fun _ _ => rfl
  | bool b =>
    intro _ _ _ s hs
    cases b
    · exact reads_scalar hs rfl fun _ _ => rfl
    · exact reads_scalar hs rfl fun _ _ => rfl
  | number hn => exact fun _ _ _ s hs => reads_number hs hn
  | string text => exact fun _ _ _ s hs => reads_string hs text
  | @array room items _ ih =>
    intro depth frames hd s hs
    have hopen : Reads [91] s (.firstElement frames) := by
      refine reads_open hs rfl (fun _ => rfl) nofun fun bytes => ?_
      exact if_pos (by omega)
    cases items with
    | nil =>
      have hclose : Reads [93] (.firstElement frames) (State.close (.array []) frames) :=
        reads_token (t := .closeArray) rfl (fun _ _ => rfl) fun _ => rfl
      exact hopen.append hclose (apart_cons (by decide) _)
    | cons w items =>
      have hitems := reads_items (w :: items) [] _ (awaits_firstElement frames) (List.cons_ne_nil _ _)
        fun u hu before => ih u hu (depth + 1) _ (by rw [List.length_cons]; omega)
      rw [List.append_nil] at hitems
      have hclose : Reads [93] (.afterElement (rereadItems (w :: items)).reverse frames)
          (State.close (.array (rereadItems (w :: items)).reverse.reverse) frames) :=
        reads_token (t := .closeArray) rfl (fun _ _ => rfl) fun _ => rfl
      rw [List.reverse_reverse] at hclose
      have h := (hopen.append hitems (apart_items _ _)).append (reads_spaces (isSpace_newLine depth) hclose)
        (apart_newLine depth _)
      rw [← List.append_assoc] at h
      exact h
  | @object room members hk _ ih =>
    intro depth frames hd s hs
    have hopen : Reads [123] s (.firstKey frames) := by
      refine reads_open hs rfl (fun _ => rfl) nofun fun bytes => ?_
      exact if_pos (by omega)
    cases members with
    | nil =>
      have hclose : Reads [125] (.firstKey frames) (State.close (.object []) frames) :=
        reads_token (t := .closeObject) rfl (fun _ _ => rfl) fun _ => rfl
      exact hopen.append hclose (apart_cons (by decide) _)
    | cons m members =>
      have hmembers := reads_members (m :: members) [] _ (awaitsKey_firstKey frames) (List.cons_ne_nil _ _) hk
        fun u hu before => ih u hu (depth + 1) _ (by rw [List.length_cons]; omega)
      have hclose : Reads [125] (.afterMember (rereadMembers (m :: members)) frames)
          (State.close (.object (rereadMembers (m :: members))) frames) :=
        reads_token (t := .closeObject) rfl (fun _ _ => rfl) fun _ => rfl
      have h := (hopen.append hmembers (apart_members _ _)).append (reads_spaces (isSpace_newLine depth) hclose)
        (apart_newLine depth _)
      rw [← List.append_assoc] at h
      exact h

/-- **What a text gives is read again from its pretty form.** -/
theorem parse_pretty_reread {v : Json} (h : Proper depthLimit v) : parse (pretty v) = .ok v.reread := by
  obtain ⟨m, -, he⟩ := written h 0 [] (Nat.le_refl _) (.value []) (awaits_value []) [] (pretty v).length nofun
    (by rw [List.append_nil]; exact Nat.le_refl _)
  rw [List.append_nil] at he
  have hr : read (pretty v) = .ok v.reread := by
    unfold read lexemes
    show ((lexemesWithin (pretty v).length (pretty v)).foldlM State.step (.value []) >>= State.finish) = _
    rw [show pretty v = prettyWithin 0 v from rfl] at he ⊢
    rw [he]
    cases m <;> rfl
  unfold parse
  rw [hr]

/-- **A value without doubles is read back** from its pretty form. -/
theorem parse_pretty {v : Json} (hf : Fits depthLimit v) (hw : Whole v) : parse (pretty v) = .ok v := by
  obtain ⟨hp, he⟩ := reread_whole hf hw
  rw [parse_pretty_reread hp, he]

/-- A member of an object that a text gives stays as it is when it is read again, if it has no doubles. -/
theorem reread_member {bytes : List UInt8} {members : Members} {key : String} {v : Json}
    (h : parse bytes = .ok (.object members)) (hv : members.get? key = some v) (hw : v.Whole) : v.reread = v := by
  have hmem : ∃ m ∈ members, m.2 = v := by
    obtain ⟨m, hm, he⟩ := Option.map_eq_some_iff.1 hv
    exact ⟨m, List.mem_of_find?_eq_some hm, he⟩
  obtain ⟨m, hm, rfl⟩ := hmem
  cases parse_fits h with
  | object _ hf => exact (reread_whole (hf m hm) hw).2

end Json
end TokenCache
