import Kippu.Doc.Value

/-!
# JSON Pointers

A pointer is the tokens of a path, each behind a `/`, with `~` written `~0` and `/` written
`~1` (RFC 6901). It is read back token by token: a token is a field's name in an object, and a
number without leading zeros in an array.
-/

namespace Doc.Pointer

variable {Leaf : Type} {t u : Value Leaf} {path : Path} {c : Char} {cs : List Char}

-- ---------------------------------------------------------------------------
-- Writing
-- ---------------------------------------------------------------------------

def escapeChar (c : Char) : List Char :=
  if c = '~' then ['~', '0'] else if c = '/' then ['~', '1'] else [c]

def escape (token : String) : String := String.ofList (token.toList.flatMap escapeChar)

def render : List String → String
  | [] => ""
  | token :: tokens => "/" ++ escape token ++ render tokens

def token : Step → String
  | .key name => name
  | .index i => toString i

def ofPath (path : Path) : String := render (path.map token)

theorem escape_eq_self {token : String} (h : token.toList.all fun c => c ≠ '~' ∧ c ≠ '/') :
    escape token = token := by
  have hself : token.toList.flatMap escapeChar = token.toList.flatMap fun c => [c] := by
    refine List.flatMap_congr fun c hc => ?_
    obtain ⟨htilde, hslash⟩ := of_decide_eq_true (List.all_eq_true.mp h c hc)
    rw [escapeChar, if_neg htilde, if_neg hslash]
  rw [escape, hself, List.flatMap_singleton', String.ofList_toList]

-- ---------------------------------------------------------------------------
-- Reading
-- ---------------------------------------------------------------------------

/-- What a text has between its `/`s. -/
def segments : List Char → List (List Char)
  | [] => [[]]
  | c :: rest =>
    if c = '/' then [] :: segments rest
    else
      match segments rest with
      | [] => [[c]]
      | s :: more => (c :: s) :: more

/-- A token, unless a `~` in it stands for nothing. -/
def unescape : List Char → Option (List Char)
  | [] => some []
  | '~' :: '0' :: rest => (unescape rest).map ('~' :: ·)
  | '~' :: '1' :: rest => (unescape rest).map ('/' :: ·)
  | '~' :: _ => none
  | c :: rest => (unescape rest).map (c :: ·)

def tokens (pointer : String) : Option (List String) :=
  match pointer.toList with
  | [] => some []
  | '/' :: rest => (segments rest).mapM fun s => (unescape s).map String.ofList
  | _ => none

def arrayIndex (token : String) : Option ℕ :=
  let n := Nat.ofDigitChars 10 token.toList 0
  if toString n = token then some n else none

def follow : Value Leaf → List String → Option (Value Leaf)
  | t, [] => some t
  | .object fields, token :: rest => do follow (← fields.lookup token) rest
  | .array items, token :: rest => do follow (← items[← arrayIndex token]?) rest
  | .leaf _, _ :: _ => none

def resolve (t : Value Leaf) (pointer : String) : Option (Value Leaf) := do
  follow t (← tokens pointer)

-- ---------------------------------------------------------------------------
-- Escapes
-- ---------------------------------------------------------------------------

theorem unescape_cons (h : c ≠ '~') : unescape (c :: cs) = (unescape cs).map (c :: ·) := by
  rw [unescape]
  · rintro rest rfl
    exact absurd rfl h
  · rintro rest rfl
    exact absurd rfl h
  · rintro rfl
    exact absurd rfl h

theorem unescape_escape (cs : List Char) : unescape (cs.flatMap escapeChar) = some cs := by
  induction cs with
  | nil => rfl
  | cons c cs ih =>
    rw [List.flatMap_cons]
    by_cases htilde : c = '~'
    · subst htilde
      simp [escapeChar, unescape, ih]
    by_cases hslash : c = '/'
    · subst hslash
      simp [escapeChar, unescape, ih]
    · simp only [escapeChar, htilde, hslash, if_false, List.singleton_append]
      rw [unescape_cons htilde, ih]
      rfl

theorem not_mem_escape (cs : List Char) : '/' ∉ cs.flatMap escapeChar := by
  intro h
  obtain ⟨c, -, hc⟩ := List.mem_flatMap.mp h
  unfold escapeChar at hc
  split at hc
  · simp at hc
  · split at hc
    · simp at hc
    · rename_i hslash
      exact hslash (List.mem_singleton.mp hc).symm

theorem segments_eq (h : '/' ∉ cs) : segments cs = [cs] := by
  induction cs with
  | nil => rfl
  | cons c cs ih =>
    have hc : c ≠ '/' := fun hc => h (hc ▸ List.mem_cons_self ..)
    rw [segments, if_neg hc, ih fun hcs => h (List.mem_cons_of_mem _ hcs)]

theorem segments_append (h : '/' ∉ cs) (rest : List Char) :
    segments (cs ++ '/' :: rest) = cs :: segments rest := by
  induction cs with
  | nil => simp [segments]
  | cons c cs ih =>
    have hc : c ≠ '/' := fun hc => h (hc ▸ List.mem_cons_self ..)
    rw [List.cons_append, segments, if_neg hc, ih fun hcs => h (List.mem_cons_of_mem _ hcs)]

theorem escape_eq {s : String} (h : ∀ c ∈ s.toList, c ≠ '~' ∧ c ≠ '/') : escape s = s := by
  have hchars : ∀ cs : List Char, (∀ c ∈ cs, c ≠ '~' ∧ c ≠ '/') →
      cs.flatMap escapeChar = cs := by
    intro cs hcs
    induction cs with
    | nil => rfl
    | cons c cs ih =>
      have hc := hcs c (List.mem_cons_self ..)
      rw [List.flatMap_cons, ih fun c' hc' => hcs c' (List.mem_cons_of_mem _ hc')]
      simp [escapeChar, hc.1, hc.2]
  rw [escape, hchars _ h, String.ofList_toList]

theorem escape_index (i : ℕ) : escape (toString i) = toString i := by
  refine escape_eq fun c hc => ?_
  have hdigit : c.isDigit := Nat.isDigit_of_mem_toDigits (b := 10) (n := i) (by decide) (by decide)
    (by simpa using hc)
  constructor
  · rintro rfl
    exact absurd hdigit (by decide)
  · rintro rfl
    exact absurd hdigit (by decide)

-- ---------------------------------------------------------------------------
-- Reading back
-- ---------------------------------------------------------------------------

theorem render_append (xs ys : List String) : render (xs ++ ys) = render xs ++ render ys := by
  induction xs with
  | nil => simp [render]
  | cons x xs ih => simp only [List.cons_append, render, ih, String.append_assoc]

theorem ofPath_append (p q : Path) : ofPath (p ++ q) = ofPath p ++ ofPath q := by
  rw [ofPath, List.map_append, render_append]
  rfl

theorem segments_render (x : String) (xs : List String) :
    (segments (x.toList.flatMap escapeChar ++ (render xs).toList)).mapM
      (fun s => (unescape s).map String.ofList) = some (x :: xs) := by
  induction xs generalizing x with
  | nil =>
    simp [render, segments_eq (not_mem_escape x.toList), unescape_escape]
  | cons y ys ih =>
    have hrender : (render (y :: ys)).toList =
        '/' :: (y.toList.flatMap escapeChar ++ (render ys).toList) := by
      simp [render, escape]
    rw [hrender, segments_append (not_mem_escape x.toList), List.mapM_cons, unescape_escape, ih y]
    simp

theorem tokens_render (xs : List String) : tokens (render xs) = some xs := by
  cases xs with
  | nil => rfl
  | cons x xs =>
    have hrender : (render (x :: xs)).toList =
        '/' :: (x.toList.flatMap escapeChar ++ (render xs).toList) := by
      simp [render, escape]
    rw [tokens, hrender]
    exact segments_render x xs

theorem arrayIndex_toString (i : ℕ) : arrayIndex (toString i) = some i := by
  have hn : Nat.ofDigitChars 10 (toString i).toList 0 = i := by
    simp [Nat.ofDigitChars_ten_toDigits]
  simp only [arrayIndex, hn, if_true]

/-- The pointer to a path of a document without a key twice points to what is there. -/
theorem resolve_ofPath (hdistinct : t.Distinct) (hat : t.At path u) :
    resolve t (ofPath path) = some u := by
  rw [resolve, ofPath, tokens_render]
  change follow t (path.map token) = some u
  induction hat with
  | here => rfl
  | key hmem hrest ih =>
    have hlookup := hdistinct.lookup .here hmem
    rw [List.map_cons, token, follow, hlookup]
    exact ih (hdistinct.below (.key hmem .here))
  | index hget hrest ih =>
    rw [List.map_cons, token, follow, arrayIndex_toString]
    change (do follow (← _) _) = _
    rw [hget]
    exact ih (hdistinct.below (.index hget .here))

example : ofPath [.key "a/b", .key "m~n", .index 10] = "/a~1b/m~0n/10" := by decide

end Doc.Pointer
