import Mathlib.Data.Option.NAry
import Mathlib.Tactic.Common

/-!
# JSON documents behind checked accessors

A document is a tree of values. The accessors of a JSON library are defined only on values of the
matching type, so a program that reads a document is a computation that either ends or names the
accessor it misused.

A reader says which part of a document a value is made of. It reads the strings of the document
through a view, for instance the characters before the first NUL; `ReadsThrough` says of which
strings the result of a reader depends, such that a reader can be put together from others.

## Main definitions

- `JsonValue`: values, with the members of an object in the order of the document
- `Access`: computations that may misuse an accessor
- `JsonValue.hasMember`, `JsonValue.get`, `JsonValue.getString`, …: the accessors
- `JsonValue.member?`, `JsonValue.string?`, …: what there is to access
- `ReadsThrough`: the strings that a reader depends on
-/

/-- A JSON value. -/
inductive JsonValue (Num Str : Type) where
  | null
  | bool (b : Bool)
  | number (n : Num)
  | string (s : Str)
  | array (elems : List (JsonValue Num Str))
  | object (members : List (Str × JsonValue Num Str))

/-- The accessors with a precondition. -/
inductive Accessor where
  | hasMember
  | subscript
  | getString
  | getArray
  | getBool
  | size
deriving DecidableEq, Repr

/-- A computation that ends, or applies an accessor to a value of the wrong type or to a missing
member. -/
abbrev Access := Except Accessor

namespace Access

variable {α β : Type}

@[simp] theorem pure_eq_ok (a : α) : (pure a : Access α) = .ok a := rfl

@[simp] theorem ok_bind (a : α) (f : α → Access β) : ((.ok a : Access α) >>= f) = f a := rfl

@[simp] theorem map_ok (f : α → β) (a : α) : f <$> (.ok a : Access α) = .ok (f a) := rfl

@[simp] theorem ok_true_andM (y : Access Bool) : ((.ok true : Access Bool) <&&> y) = y := rfl

@[simp] theorem ok_false_andM (y : Access Bool) :
    ((.ok false : Access Bool) <&&> y) = .ok false := rfl

@[simp] theorem ok_true_orM (y : Access Bool) : ((.ok true : Access Bool) <||> y) = .ok true := rfl

@[simp] theorem ok_false_orM (y : Access Bool) : ((.ok false : Access Bool) <||> y) = y := rfl

end Access

namespace JsonValue

variable {Num Str : Type}

def isNull : JsonValue Num Str → Bool
  | null => true
  | _ => false

def isObject : JsonValue Num Str → Bool
  | object _ => true
  | _ => false

def isArray : JsonValue Num Str → Bool
  | array _ => true
  | _ => false

def isString : JsonValue Num Str → Bool
  | string _ => true
  | _ => false

def isBool : JsonValue Num Str → Bool
  | bool _ => true
  | _ => false

/-- The characters of a string. -/
def string? : JsonValue Num Str → Option Str
  | string s => some s
  | _ => none

def bool? : JsonValue Num Str → Option Bool
  | bool b => some b
  | _ => none

/-- The elements of an array. -/
def array? : JsonValue Num Str → Option (List (JsonValue Num Str))
  | array elems => some elems
  | _ => none

def getString : JsonValue Num Str → Access Str
  | string s => .ok s
  | _ => .error .getString

def getBool : JsonValue Num Str → Access Bool
  | bool b => .ok b
  | _ => .error .getBool

def getArray : JsonValue Num Str → Access (List (JsonValue Num Str))
  | array elems => .ok elems
  | _ => .error .getArray

def size : JsonValue Num Str → Access ℕ
  | array elems => .ok elems.length
  | _ => .error .size

section Members

variable [DecidableEq Str]

/-- The value of the first member of that name. -/
def member? (name : Str) : JsonValue Num Str → Option (JsonValue Num Str)
  | object members => (members.find? fun member => member.1 = name).map Prod.snd
  | _ => none

def hasMember (name : Str) : JsonValue Num Str → Access Bool
  | object members => .ok (members.find? fun member => member.1 = name).isSome
  | _ => .error .hasMember

/-- The subscript operator. -/
def get (name : Str) : JsonValue Num Str → Access (JsonValue Num Str)
  | object members =>
    match members.find? fun member => member.1 = name with
    | some member => .ok member.2
    | none => .error .subscript
  | _ => .error .subscript

/-- On an object the question for a member may be asked. -/
theorem hasMember_of_isObject {v : JsonValue Num Str} (h : v.isObject = true) (name : Str) :
    v.hasMember name = .ok (v.member? name).isSome := by
  cases v with
  | object members => simp [hasMember, member?]
  | _ => exact absurd h (by simp [isObject])

theorem hasMember_of_not_isObject {v : JsonValue Num Str} (h : v.isObject = false) (name : Str) :
    v.hasMember name = .error .hasMember := by
  cases v with
  | object members => exact absurd h (by simp [isObject])
  | _ => rfl

theorem member?_of_not_isObject {v : JsonValue Num Str} (h : v.isObject = false) (name : Str) :
    v.member? name = none := by
  cases v with
  | object members => exact absurd h (by simp [isObject])
  | _ => rfl

/-- A member that is there may be taken. -/
theorem get_of_member? {v w : JsonValue Num Str} {name : Str} (h : v.member? name = some w) :
    v.get name = .ok w := by
  cases v with
  | object members =>
    obtain ⟨member, hfind, rfl⟩ := Option.map_eq_some_iff.mp h
    simp [get, hfind]
  | _ => exact absurd h (by simp [member?])

end Members

theorem isString_eq (v : JsonValue Num Str) : v.isString = v.string?.isSome := by
  cases v <;> rfl

theorem isBool_eq (v : JsonValue Num Str) : v.isBool = v.bool?.isSome := by
  cases v <;> rfl

theorem isArray_eq (v : JsonValue Num Str) : v.isArray = v.array?.isSome := by
  cases v <;> rfl

theorem getString_of_string? {v : JsonValue Num Str} {s : Str} (h : v.string? = some s) :
    v.getString = .ok s := by
  cases v with
  | string s' => exact congrArg Except.ok (Option.some.inj h)
  | _ => exact absurd h (by simp [string?])

theorem getBool_of_bool? {v : JsonValue Num Str} {b : Bool} (h : v.bool? = some b) :
    v.getBool = .ok b := by
  cases v with
  | bool b' => exact congrArg Except.ok (Option.some.inj h)
  | _ => exact absurd h (by simp [bool?])

theorem getArray_of_array? {v : JsonValue Num Str} {elems : List (JsonValue Num Str)}
    (h : v.array? = some elems) : v.getArray = .ok elems := by
  cases v with
  | array elems' => exact congrArg Except.ok (Option.some.inj h)
  | _ => exact absurd h (by simp [array?])

theorem size_of_array? {v : JsonValue Num Str} {elems : List (JsonValue Num Str)}
    (h : v.array? = some elems) : v.size = .ok elems.length := by
  cases v with
  | array elems' => exact congrArg (fun l => Except.ok l.length) (Option.some.inj h)
  | _ => exact absurd h (by simp [array?])

end JsonValue

/-! ### Readers -/

section Readers

variable {Str α β γ δ : Type*} {view : Str → Str}

/-- The reader depends on the strings only: if the view leaves them as they are it makes no
difference, and if it makes none for a value that was read, it leaves them as they are. -/
structure ReadsThrough (view : Str → Str) (read : (Str → Str) → β → Option α)
    (strings : β → List Str) : Prop where
  congr : ∀ {b}, (∀ s ∈ strings b, view s = s) → read view b = read id b
  fixed : ∀ {b a}, read id b = some a → read view b = some a → ∀ s ∈ strings b, view s = s

namespace ReadsThrough

/-- A reader that looks at no string. -/
theorem const (read : β → Option α) : ReadsThrough view (fun _ => read) fun _ => [] where
  congr _ := rfl
  fixed _ _ _ hs := absurd hs List.not_mem_nil

/-- Two readers that have only one way to their result. -/
theorem map₂ {read₁ : (Str → Str) → δ → Option α} {read₂ : (Str → Str) → δ → Option β}
    {strings₁ strings₂ : δ → List Str} {f : α → β → γ}
    (hf : ∀ a b a' b', f a b = f a' b' → a = a' ∧ b = b') (h₁ : ReadsThrough view read₁ strings₁)
    (h₂ : ReadsThrough view read₂ strings₂) :
    ReadsThrough view (fun view d => Option.map₂ f (read₁ view d) (read₂ view d))
      fun d => strings₁ d ++ strings₂ d where
  congr {d} hview := by
    have hview₁ : ∀ s ∈ strings₁ d, view s = s := fun s hs => hview s (List.mem_append_left _ hs)
    have hview₂ : ∀ s ∈ strings₂ d, view s = s := fun s hs => hview s (List.mem_append_right _ hs)
    rw [h₁.congr hview₁, h₂.congr hview₂]
  fixed {d c} hid hview := by
    obtain ⟨a, b, ha, hb, rfl⟩ := Option.mem_map₂_iff.mp hid
    obtain ⟨a', b', ha', hb', heq⟩ := Option.mem_map₂_iff.mp hview
    obtain ⟨rfl, rfl⟩ := hf _ _ _ _ heq
    intro s hs
    rcases List.mem_append.mp hs with hs | hs
    · exact h₁.fixed ha ha' s hs
    · exact h₂.fixed hb hb' s hs

/-- What was read, put into another form. -/
theorem map {read : (Str → Str) → β → Option α} {strings : β → List Str} {f : α → γ}
    (h : ReadsThrough view read strings) (hf : ∀ a a', f a = f a' → a = a') :
    ReadsThrough view (fun view b => (read view b).map f) strings where
  congr hview := by rw [h.congr hview]
  fixed hid hview := by
    obtain ⟨a, ha, rfl⟩ := Option.map_eq_some_iff.mp hid
    obtain ⟨a', ha', heq⟩ := Option.map_eq_some_iff.mp hview
    obtain rfl := hf _ _ heq
    exact h.fixed ha ha'

/-- A check of what was read. -/
theorem filter {read : (Str → Str) → β → Option α} {strings : β → List Str}
    (h : ReadsThrough view read strings) (p : α → Bool) :
    ReadsThrough view (fun view b => (read view b).filter p) strings where
  congr hview := by rw [h.congr hview]
  fixed hid hview :=
    h.fixed (Option.filter_eq_some_iff.mp hid).1 (Option.filter_eq_some_iff.mp hview).1

/-- A reader of a part of the document. -/
theorem part {read : (Str → Str) → β → Option α} {strings : β → List Str}
    (h : ReadsThrough view read strings) (g : γ → Option β) :
    ReadsThrough view (fun view c => (g c).bind (read view))
      fun c => (g c).toList.flatMap strings where
  congr {c} hview := by
    cases hg : g c with
    | none => rfl
    | some b => exact h.congr (by simpa [hg] using hview)
  fixed {c a} hid hview := by
    obtain ⟨b, hb, hid⟩ := Option.bind_eq_some_iff.mp hid
    rw [hb] at hview ⊢
    simpa using h.fixed hid hview

/-- A reader of a part that may be absent. -/
theorem partD {read : (Str → Str) → β → Option α} {strings : β → List Str}
    (h : ReadsThrough view read strings) (g : γ → Option β) (default : α) :
    ReadsThrough view (fun view c => (g c).elim (some default) (read view))
      fun c => (g c).toList.flatMap strings where
  congr {c} hview := by
    cases hg : g c with
    | none => rfl
    | some b => exact h.congr (by simpa [hg] using hview)
  fixed {c a} hid hview := by
    cases hg : g c with
    | none => simp
    | some b =>
      rw [hg] at hid hview
      simpa using h.fixed hid hview

/-- A reader for each element of a list. -/
theorem mapM {read : (Str → Str) → β → Option α} {strings : β → List Str}
    (h : ReadsThrough view read strings) :
    ReadsThrough view (fun view (bs : List β) => bs.mapM (read view))
      fun bs => bs.flatMap strings where
  congr {bs} hview := by
    induction bs with
    | nil => rfl
    | cons b bs ih =>
      rw [List.flatMap_cons] at hview
      have hhead : read view b = read id b :=
        h.congr fun s hs => hview s (List.mem_append_left _ hs)
      have hrest := ih fun s hs => hview s (List.mem_append_right _ hs)
      rw [List.mapM_cons, List.mapM_cons, hhead, hrest]
  fixed {bs as} hid hview := by
    induction bs generalizing as with
    | nil => simp
    | cons b bs ih =>
      rw [List.mapM_cons] at hid hview
      obtain ⟨a, ha, hid⟩ := Option.bind_eq_some_iff.mp hid
      obtain ⟨rest, hrest, hcons⟩ := Option.bind_eq_some_iff.mp hid
      obtain rfl := Option.some.inj hcons
      obtain ⟨a', ha', hview⟩ := Option.bind_eq_some_iff.mp hview
      obtain ⟨rest', hrest', hcons'⟩ := Option.bind_eq_some_iff.mp hview
      obtain ⟨rfl, rfl⟩ := List.cons.inj (Option.some.inj hcons')
      intro s hs
      rcases List.mem_append.mp hs with hs | hs
      · exact h.fixed ha ha' s hs
      · exact ih hrest hrest' s hs

/-- The view makes no difference exactly if no string that is read, with the view or without it, is
changed by it. -/
theorem read_eq_iff {read : (Str → Str) → β → Option α} {strings : β → List Str}
    (h : ReadsThrough view read strings) (b : β) :
    read view b = read id b ↔
      ((read view b).isSome ∨ (read id b).isSome → ∀ s ∈ strings b, view s = s) := by
  constructor
  · intro heq hsome
    rw [heq, or_self] at hsome
    obtain ⟨a, ha⟩ := Option.isSome_iff_exists.mp hsome
    exact h.fixed ha (heq.trans ha)
  · intro hview
    by_cases hsome : (read view b).isSome ∨ (read id b).isSome
    · exact h.congr (hview hsome)
    · rw [not_or, Option.not_isSome_iff_eq_none, Option.not_isSome_iff_eq_none] at hsome
      rw [hsome.1, hsome.2]

end ReadsThrough

end Readers
