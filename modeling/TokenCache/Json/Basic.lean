import TokenCache.Binary64.Basic
/-!
# JSON values

Credential files and endpoint replies are JSON.  An object keeps its members in the order in which their keys first
came.  Numbers are of two kinds: whole numbers of 64 bits, signed or not, and double-precision numbers.
-/
namespace TokenCache

inductive Number
  | integer (n : Int)
  | real (x : Binary64)
  deriving DecidableEq

inductive Json
  | null
  | bool (b : Bool)
  | number (n : Number)
  | string (s : String)
  | array (items : List Json)
  | object (members : List (String × Json))
  deriving Inhabited

/-- The members of an object, each key once. -/
abbrev Members := List (String × Json)

/-! ## Members -/

namespace Members

def get? (ms : Members) (key : String) : Option Json :=
  (ms.find? fun m => m.1 == key).map Prod.snd

/-- Writes a member: a key already there keeps its place, a new one comes last. -/
def insert (key : String) (value : Json) : Members → Members
  | [] => [(key, value)]
  | m :: ms => if m.1 == key then (key, value) :: ms else m :: insert key value ms

def keys (ms : Members) : List String :=
  ms.map Prod.fst

def hasKey (ms : Members) (key : String) : Bool :=
  (get? ms key).isSome

/-! A member written is found, the others are found as before, and the keys stay in order. -/

theorem get?_cons (m : String × Json) (ms : Members) (key : String) :
    get? (m :: ms) key = if m.1 == key then some m.2 else get? ms key := by
  unfold get?
  rw [List.find?_cons]
  cases m.1 == key <;> rfl

theorem get?_insert (key : String) (value : Json) (k : String) : ∀ ms : Members,
    get? (insert key value ms) k = if key == k then some value else get? ms k
  | [] => by rw [insert, get?_cons]
  | m :: ms => by
    unfold insert
    by_cases h : m.1 = key
    · subst h
      rw [beq_self_eq_true, if_pos rfl, get?_cons, get?_cons]
      cases m.1 == k <;> rfl
    · rw [if_neg (by simpa using h), get?_cons, get?_cons, get?_insert key value k ms]
      by_cases hk : m.1 = k
      · subst hk
        rw [beq_self_eq_true, if_pos rfl, if_neg (by simpa using Ne.symm h), if_pos rfl]
      · rw [if_neg (c := (m.1 == k) = true) (by simpa using hk), if_neg (c := (m.1 == k) = true) (by simpa using hk)]

theorem hasKey_iff (ms : Members) (key : String) : hasKey ms key = true ↔ key ∈ ms.keys := by
  unfold hasKey get? keys
  rw [Option.isSome_map, List.find?_isSome]
  simp

theorem get?_eq_none {ms : Members} {key : String} : ms.get? key = none ↔ key ∉ ms.keys := by
  rw [← hasKey_iff, hasKey, Option.not_isSome_iff_eq_none]

/-- A key that is there keeps its place. -/
theorem keys_insert (key : String) (value : Json) : ∀ ms : Members,
    keys (insert key value ms) = if key ∈ ms.keys then ms.keys else ms.keys ++ [key]
  | [] => by simp [insert, keys]
  | m :: ms => by
    have ih := keys_insert key value ms
    unfold insert
    by_cases h : m.1 = key
    · subst h; simp [keys]
    · rw [if_neg (by simpa using h)]
      unfold keys at ih ⊢
      rw [List.map_cons, ih, List.map_cons]
      simp only [List.mem_cons, Ne.symm h, false_or]
      split <;> rfl

theorem nodup_keys_insert (key : String) (value : Json) {ms : Members} (h : ms.keys.Nodup) :
    (insert key value ms).keys.Nodup := by
  rw [keys_insert]
  split
  · exact h
  · rename_i hk
    exact List.nodup_append.2 ⟨h, by simp, fun a ha b hb e => hk (by simp at hb; rw [← hb, ← e]; exact ha)⟩

end Members

/-! ## Numbers -/

namespace Number

/-- A whole number is rounded to the nearest double, a tie to the even one. -/
def toBinary64 : Number → Binary64
  | integer n => Binary64.ofInt n
  | real x => x

/-- Whether two numbers are of one kind and one value. -/
def same : Number → Number → Bool
  | integer n, integer m => n == m
  | real x, real y => x.same y
  | _, _ => false

end Number

/-! ## Equality up to the order of members -/

namespace Json

mutual

/-- Whether two values are the same but for the order of members, at every depth. -/
def same : Json → Json → Bool
  | null, null => true
  | bool a, bool b => a == b
  | number a, number b => a.same b
  | string a, string b => a == b
  | array as, array bs => sameItems as bs
  | object as, object bs => as.length == bs.length && sameMembers as bs
  | _, _ => false

def sameItems : List Json → List Json → Bool
  | [], [] => true
  | a :: as, b :: bs => same a b && sameItems as bs
  | _, _ => false

/-- Whether every member of the first object is one of the second. -/
def sameMembers : List (String × Json) → Members → Bool
  | [], _ => true
  | (key, a) :: as, bs =>
    (match bs.get? key with
      | some b => same a b
      | none => false) && sameMembers as bs

end

end Json
end TokenCache
