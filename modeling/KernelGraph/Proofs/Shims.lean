/-
  Shims declare and forward the same parameters in both dialects.

      HLSL    u32 Load(in u32 P1, out f32 P2) { return Read_DI1_Buffer(P1); }
      WGSL    fn Load(P1: u32, P2: ptr<function, f32>) -> u32 { return Read_DI1_Buffer(P1); }

  What is between the parts that the signatures prescribe is the `Glue`: how the parameters are
  named, whether the call is returned, and which arguments it has.

  1. The texts of a shim are those of a glue that is the same in both dialects (`Shim.glue`).

  2. Function names, types and scopes may be any text, with brackets, commas and keywords in it.
     The glue can be read off the text all the same, given the signatures: names end at the first
     character that is not one of an identifier, and a keyword that may stand in front of a given
     text shows, because what follows the text is not the end of the keyword (`exists_rotation`).

  3. So there is no other glue that either of the texts could be read as (`Shim.shim_forwards`).
-/
import KernelGraph.Dialect
import KernelGraph.Proofs.Symbols

namespace KernelGraph

/-! ## Names in a text -/

/-- The characters of identifiers. -/
def isWordChar (c : Char) : Bool := c.isAlphanum || c == '_'

theorem IsIdentifier.all_word {n : String} (h : IsIdentifier n) :
    ∀ c ∈ n.toList, isWordChar c = true := by
  intro c hc
  rcases h.2.1 c hc with hc | rfl
  · rw [isWordChar, hc, Bool.true_or]
  · rfl

/-- An identifier begins with a character of a word. -/
theorem IsIdentifier.exists_cons {n : String} (h : IsIdentifier n) :
    ∃ c cs, n.toList = c :: cs ∧ isWordChar c = true := by
  cases hn : n.toList with
  | nil => exact absurd (String.toList_eq_nil_iff.1 hn) h.1
  | cons c cs => exact ⟨c, cs, rfl, h.all_word c (hn ▸ List.mem_cons_self ..)⟩

/-- **Words end at the first character that is none of theirs.** -/
theorem word_inj : ∀ {a b x y : List Char} {c d : Char}, (∀ e ∈ a, isWordChar e = true) →
    (∀ e ∈ b, isWordChar e = true) → isWordChar c = false → isWordChar d = false →
    a ++ c :: x = b ++ d :: y → a = b ∧ c = d ∧ x = y
  | [], [], _, _, _, _, _, _, _, _, h => ⟨rfl, List.cons.inj h⟩
  | [], e :: b, _, _, _, _, _, hb, hc, _, h => by
    rw [(List.cons.inj h).1, hb e (List.mem_cons_self ..)] at hc
    cases hc
  | e :: a, [], _, _, _, _, ha, _, _, hd, h => by
    rw [← (List.cons.inj h).1, ha e (List.mem_cons_self ..)] at hd
    cases hd
  | e :: a, f :: b, _, _, _, _, ha, hb, hc, hd, h => by
    obtain ⟨hhead, htail⟩ := List.cons.inj h
    obtain ⟨hword, hrest⟩ := word_inj (fun e he => ha e (List.mem_cons_of_mem _ he))
      (fun e he => hb e (List.mem_cons_of_mem _ he)) hc hd htail
    exact ⟨congrArg₂ _ hhead hword, hrest⟩

theorem IsIdentifier.inj {n m : String} {x y : List Char} {c d : Char} (hn : IsIdentifier n)
    (hm : IsIdentifier m) (hc : isWordChar c = false) (hd : isWordChar d = false)
    (h : n.toList ++ c :: x = m.toList ++ d :: y) : n = m ∧ c = d ∧ x = y := by
  obtain ⟨hname, hrest⟩ := word_inj hn.all_word hm.all_word hc hd h
  exact ⟨String.toList_injective hname, hrest⟩

/-- **What a text can go on with if it begins alike with a keyword in front and without**: the end
    of the keyword, from some place on, and its beginning. -/
theorem exists_rotation {u : List Char} (hu : u ≠ []) {t a b : List Char}
    (h : u ++ (t ++ a) = t ++ b) : ∃ p q, u = p ++ q ∧ q ≠ [] ∧ b = q ++ (p ++ a) := by
  rcases List.append_eq_append_iff.1 h with ⟨t', ht, hrest⟩ | ⟨q, hq, hrest⟩
  · cases t' with
    | nil =>
      rw [List.append_nil] at ht
      rw [ht] at hrest
      exact ⟨[], u, rfl, hu, hrest.symm⟩
    | cons c t' =>
      -- the text begins with the keyword, and is shorter without it
      have hlength : (c :: t').length < t.length := by
        rw [ht, List.length_append]
        have := List.length_pos_iff.2 hu
        omega
      rw [ht, List.append_assoc] at hrest
      exact exists_rotation hu hrest
  · by_cases hnil : q = []
    · rw [hnil, List.append_nil] at hq
      rw [hnil, List.nil_append] at hrest
      exact ⟨[], u, rfl, hu, by rw [hrest, hq]; rfl⟩
    · exact ⟨t, q, hq, hnil, hrest⟩
termination_by t.length

/-! ## Lists in brackets -/

/-- What stands behind an element of a list in brackets: the other elements, the bracket, and the
    rest. -/
def behind : List String → List Char → List Char
  | [], rest => ')' :: rest
  | t :: ts, rest => ',' :: ' ' :: (t.toList ++ behind ts rest)

theorem behind_cases (ts : List String) (rest : List Char) :
    ∃ c x, behind ts rest = c :: x ∧ isWordChar c = false := by
  cases ts with
  | nil => exact ⟨_, _, rfl, rfl⟩
  | cons t ts => exact ⟨_, _, rfl, rfl⟩

theorem toList_list (t : String) (ts : List String) (rest : List Char) :
    (", ".intercalate (t :: ts)).toList ++ ')' :: rest = t.toList ++ behind ts rest := by
  induction ts generalizing t with
  | nil => simp [behind]
  | cons t' ts ih =>
    rw [String.intercalate_cons_cons, String.toList_append, String.toList_append, List.append_assoc,
      ih t', List.append_assoc, behind]
    rfl

/-- **Identifiers behind one another are told apart.** -/
theorem behind_inj {xs ys : List String} {a b : List Char} (hx : ∀ x ∈ xs, IsIdentifier x)
    (hy : ∀ y ∈ ys, IsIdentifier y) (h : behind xs a = behind ys b) : xs = ys ∧ a = b := by
  induction xs generalizing ys with
  | nil =>
    cases ys with
    | nil => exact ⟨rfl, (List.cons.inj h).2⟩
    | cons y ys => exact absurd (List.cons.inj h).1 (by decide)
  | cons x xs ih =>
    cases ys with
    | nil => exact absurd (List.cons.inj h).1 (by decide)
    | cons y ys =>
      obtain ⟨hx, hxs⟩ := List.forall_mem_cons.1 hx
      obtain ⟨hy, hys⟩ := List.forall_mem_cons.1 hy
      obtain ⟨c, x', hc, hword⟩ := behind_cases xs a
      obtain ⟨d, y', hd, hword'⟩ := behind_cases ys b
      have h := (List.cons.inj (List.cons.inj h).2).2
      rw [hc, hd] at h
      obtain ⟨rfl, rfl, rfl⟩ := hx.inj hy hword hword' h
      obtain ⟨rfl, rfl⟩ := ih hxs hys (hc.trans hd.symm)
      exact ⟨rfl, rfl⟩

/-- The first element is like the others, with a comma in front of it. -/
theorem behind_eq_of_list_eq {ts ts' : List String} {a b : List Char} (hnil : ts = [] ↔ ts' = [])
    (h : (", ".intercalate ts).toList ++ ')' :: a = (", ".intercalate ts').toList ++ ')' :: b) :
    behind ts a = behind ts' b := by
  cases ts with
  | nil =>
    rw [hnil.1 rfl] at h ⊢
    exact h
  | cons t ts =>
    cases ts' with
    | nil => exact absurd (hnil.2 rfl) (List.cons_ne_nil t ts)
    | cons t' ts' =>
      rw [toList_list, toList_list] at h
      rw [behind, behind, h]

/-- **A list of identifiers in brackets can be read off.** -/
theorem list_inj {xs ys : List String} {a b : List Char} (hx : ∀ x ∈ xs, IsIdentifier x)
    (hy : ∀ y ∈ ys, IsIdentifier y)
    (h : (", ".intercalate xs).toList ++ ')' :: a = (", ".intercalate ys).toList ++ ')' :: b) :
    xs = ys ∧ a = b := by
  have hempty : ∀ {zs : List String} {a b : List Char}, (∀ z ∈ zs, IsIdentifier z) →
      (", ".intercalate []).toList ++ ')' :: a = (", ".intercalate zs).toList ++ ')' :: b →
        zs = [] := by
    intro zs a b hz h
    cases zs with
    | nil => rfl
    | cons z zs =>
      obtain ⟨c, cs, hcons, hword⟩ := (hz z (List.mem_cons_self ..)).exists_cons
      rw [toList_list, hcons] at h
      rw [← (List.cons.inj h).1] at hword
      exact absurd hword (by decide)
  refine behind_inj hx hy (behind_eq_of_list_eq ⟨?_, ?_⟩ h)
  · rintro rfl
    exact hempty hy h
  · rintro rfl
    exact hempty hx h.symm

/-- **The parameters of a signature can be read off**, if each of them can that others may
    follow. -/
theorem params_inj {α : Type} {print : Param × α → String} {good : α → Prop}
    (hprint : ∀ p x y (ps qs : List (Param × α)) a b, good x → good y → (∀ q ∈ ps, good q.2) →
      (∀ q ∈ qs, good q.2) → (print (p, x)).toList ++ behind (ps.map print) a =
        (print (p, y)).toList ++ behind (qs.map print) b →
      x = y ∧ behind (ps.map print) a = behind (qs.map print) b) {params : List Param} :
    ∀ {xs ys : List α} {a b : List Char}, xs.length = params.length → ys.length = params.length →
      (∀ x ∈ xs, good x) → (∀ y ∈ ys, good y) →
      behind ((params.zip xs).map print) a = behind ((params.zip ys).map print) b →
      xs = ys ∧ a = b := by
  induction params with
  | nil =>
    intro xs ys a b hx hy _ _ h
    rw [List.length_eq_zero_iff.1 hx, List.length_eq_zero_iff.1 hy]
    exact ⟨rfl, (List.cons.inj h).2⟩
  | cons p params ih =>
    intro xs ys a b hx hy hgood hgood' h
    cases xs with
    | nil => cases hx
    | cons x xs =>
      cases ys with
      | nil => cases hy
      | cons y ys =>
        obtain ⟨hgoodx, hxs⟩ := List.forall_mem_cons.1 hgood
        obtain ⟨hgoody, hys⟩ := List.forall_mem_cons.1 hgood'
        obtain ⟨hsame, hrest⟩ := hprint p x y _ _ a b hgoodx hgoody
          (fun q hq => hxs _ (List.of_mem_zip hq).2) (fun q hq => hys _ (List.of_mem_zip hq).2)
          (List.cons.inj (List.cons.inj h).2).2
        obtain ⟨htail, hend⟩ := ih (Nat.succ.inj hx) (Nat.succ.inj hy) hxs hys hrest
        exact ⟨congrArg₂ _ hsame htail, hend⟩

/-! ## Glue -/

/-- What a wrapper does with its parameters: how it names them, whether it returns what the call
    returns, and what it passes on. -/
structure Glue where
  names : List String
  returns : Bool
  arguments : List String
  deriving DecidableEq

namespace Glue

/-- The glue names every parameter of the wrapper, and has only identifiers. -/
structure Fits (g : Glue) (s : Shim) : Prop where
  length : g.names.length = s.wrap.params.length
  names : ∀ n ∈ g.names, IsIdentifier n
  arguments : ∀ n ∈ g.arguments, IsIdentifier n

/-- The call of the implementation. -/
def call (g : Glue) (s : Shim) : String :=
  (if g.returns then "return " else "") ++ s.impl.implName s.uid ++ "(" ++
    ", ".intercalate g.arguments ++ ");"

/-- A parameter in HLSL. -/
def hlslParam (x : Param × String) : String :=
  Function.modifierText x.1 ++ x.1.type ++ " " ++ x.2

/-- The wrapper with this glue in HLSL. -/
def hlsl (g : Glue) (s : Shim) : String :=
  (if s.scope = "" then "" else "namespace " ++ s.scope ++ " \x7b ") ++
    s.wrap.resultText ++ " " ++ s.name ++ "(" ++
    ", ".intercalate ((s.wrap.params.zip g.names).map hlslParam) ++ ") \x7b " ++ g.call s ++
    (if s.scope = "" then "" else " \x7d") ++ " \x7d\n"

/-- A type in WGSL, or that of a function-space pointer to it. -/
def wgslType (type : String) (pointer : Bool) : String :=
  if pointer then "ptr<function, " ++ type ++ ">" else type

/-- A parameter in WGSL, by value or as a pointer. -/
def wgslParam (x : Param × Bool × String) : String :=
  x.2.2 ++ ": " ++ wgslType x.1.type x.2.1

/-- The wrapper with this glue in WGSL. -/
def wgsl (g : Glue) (s : Shim) (pointers : List Bool) : String :=
  "fn " ++ (if s.scope = "" then "" else s.scope ++ "_") ++ s.name ++ "(" ++
    ", ".intercalate ((s.wrap.params.zip (pointers.zip g.names)).map wgslParam) ++ ")" ++
    (if s.wrap.hasResult then " -> " ++ s.wrap.result else "") ++ " \x7b " ++ g.call s ++ " \x7d\n"

section
variable {g g' : Glue} {s : Shim} {pointers pointers' : List Bool}

/-- **The call can be read off**: no name of a function makes `return` a part of it. -/
theorem call_inj (hg : g.Fits s) (hg' : g'.Fits s) (h : g.call s = g'.call s) :
    g.returns = g'.returns ∧ g.arguments = g'.arguments := by
  have hlist : ∀ g : Glue, (g.call s).toList = (if g.returns then "return ".toList else []) ++
      ((s.impl.implName s.uid).toList ++ '(' ::
        ((", ".intercalate g.arguments).toList ++ ')' :: [';'])) := by
    intro g
    rw [call]
    cases g.returns <;> simp
  -- the name would be followed by an end of the keyword, which has no bracket
  have hkeyword : ∀ {t a b : List Char}, "return ".toList ++ (t ++ a) ≠ t ++ '(' :: b := by
    intro t a b h
    obtain ⟨p, q, hu, hq, hb⟩ := exists_rotation (by decide) h
    cases q with
    | nil => exact hq rfl
    | cons c q =>
      have hmem : '(' ∈ "return ".toList := by
        rw [hu, (List.cons.inj hb).1]
        exact List.mem_append_right _ (List.mem_cons_self ..)
      exact absurd hmem (by decide)
  have hlists := congrArg String.toList h
  rw [hlist, hlist] at hlists
  have hreturns : g.returns = g'.returns := by
    cases hr : g.returns <;> cases hr' : g'.returns
    · rfl
    · rw [hr, hr'] at hlists
      exact absurd hlists.symm hkeyword
    · rw [hr, hr'] at hlists
      exact absurd hlists hkeyword
    · rfl
  rw [hreturns] at hlists
  exact ⟨hreturns, (list_inj hg.arguments hg'.arguments
    (List.cons.inj (List.append_cancel_left (List.append_cancel_left hlists))).2).1⟩

theorem ext_of_call (hg : g.Fits s) (hg' : g'.Fits s) (hnames : g.names = g'.names)
    (h : g.call s = g'.call s) : g = g' := by
  obtain ⟨hreturns, harguments⟩ := call_inj hg hg' h
  cases g
  cases g'
  cases hnames
  cases hreturns
  cases harguments
  rfl

/-- What follows the parameters, up to the call and behind it, is the same. -/
theorem call_eq_of_append {a b : String} {mid post : List Char}
    (h : mid ++ (a.toList ++ post) = mid ++ (b.toList ++ post)) : a = b :=
  String.toList_injective (List.append_cancel_right (List.append_cancel_left h))

theorem toList_hlslParam (p : Param) (n : String) : (hlslParam (p, n)).toList =
    (Function.modifierText p ++ p.type ++ " ").toList ++ n.toList := by
  simp [hlslParam]

theorem toList_wgslParam (p : Param) (pointer : Bool) (n : String) :
    (wgslParam (p, pointer, n)).toList =
      n.toList ++ ':' :: ' ' :: (wgslType p.type pointer).toList := by
  simp [wgslParam]

/-- The name of a parameter in HLSL can be read off, and where the next one begins. -/
theorem hlslParam_inj (p : Param) (n m : String) (ps qs : List (Param × String)) (a b : List Char)
    (hn : IsIdentifier n) (hm : IsIdentifier m) (_ : ∀ q ∈ ps, IsIdentifier q.2)
    (_ : ∀ q ∈ qs, IsIdentifier q.2)
    (h : (hlslParam (p, n)).toList ++ behind (ps.map hlslParam) a =
      (hlslParam (p, m)).toList ++ behind (qs.map hlslParam) b) :
    n = m ∧ behind (ps.map hlslParam) a = behind (qs.map hlslParam) b := by
  obtain ⟨c, x, hc, hword⟩ := behind_cases (ps.map hlslParam) a
  obtain ⟨d, y, hd, hword'⟩ := behind_cases (qs.map hlslParam) b
  rw [hc, hd, toList_hlslParam, toList_hlslParam, List.append_assoc, List.append_assoc] at h
  obtain ⟨hname, rfl, rfl⟩ := hn.inj hm hword hword' (List.append_cancel_left h)
  exact ⟨hname, hc.trans hd.symm⟩

/-- **The glue of a wrapper in HLSL can be read off.** -/
theorem hlsl_inj (hg : g.Fits s) (hg' : g'.Fits s) (h : g.hlsl s = g'.hlsl s) : g = g' := by
  have hlist : ∀ g : Glue, (g.hlsl s).toList =
      ((if s.scope = "" then "" else "namespace " ++ s.scope ++ " \x7b ") ++ s.wrap.resultText ++
        " " ++ s.name ++ "(").toList ++
      ((", ".intercalate ((s.wrap.params.zip g.names).map hlslParam)).toList ++
        ')' :: (" \x7b ".toList ++ ((g.call s).toList ++
          ((if s.scope = "" then "" else " \x7d") ++ " \x7d\n").toList))) := by
    intro g
    have hclose : ") \x7b ".toList = ')' :: " \x7b ".toList := rfl
    unfold hlsl
    simp only [String.toList_append, List.append_assoc, hclose, List.cons_append]
  have hlists := congrArg String.toList h
  rw [hlist, hlist] at hlists
  have hparams := behind_eq_of_list_eq (by simp [← List.length_eq_zero_iff, hg.length, hg'.length])
    (List.append_cancel_left hlists)
  obtain ⟨hnames, hrest⟩ := params_inj hlslParam_inj hg.length hg'.length hg.names hg'.names hparams
  exact ext_of_call hg hg' hnames (call_eq_of_append hrest)

/-- **A type does not show as a pointer** where a parameter or the bracket follows. -/
theorem not_pointer {t a b : List Char} {ps : List (Param × Bool × String)}
    (hps : ∀ q ∈ ps, IsIdentifier q.2.2)
    (h : "ptr<function, ".toList ++ (t ++ '>' :: a) = t ++ behind (ps.map wgslParam) b) :
    False := by
  obtain ⟨p, q, hu, hq, hb⟩ := exists_rotation (by decide) h
  cases q with
  | nil => exact hq rfl
  | cons c q =>
    cases ps with
    | nil =>
      -- the keyword has no closing bracket
      have hmem : ')' ∈ "ptr<function, ".toList := by
        rw [hu, ← (List.cons.inj hb).1]
        exact List.mem_append_right _ (List.mem_cons_self ..)
      exact absurd hmem (by decide)
    | cons x ps =>
      -- its comma would be the one in front of the next parameter, whose name ends at a colon
      obtain ⟨rfl, hnext⟩ := List.cons.inj hb
      have hcount := congrArg (List.count ',') hu
      rw [List.count_append, List.count_cons_self] at hcount
      have hone : List.count ',' "ptr<function, ".toList = 1 := by decide
      have hp : ',' ∉ p := List.count_eq_zero.1 (by omega)
      obtain ⟨rfl, rfl⟩ := append_inj_of_notMem (a := "ptr<function".toList)
        (x := [' ']) (by decide)
        hp hu
      have hname := (List.cons.inj hnext).2
      rw [toList_wgslParam, List.append_assoc] at hname
      obtain ⟨_, hcolon, _⟩ := word_inj (b := "ptr".toList) (d := '<')
        (hps x (List.mem_cons_self ..)).all_word (List.all_eq_true.1 (by decide)) (by decide)
        (by decide) hname
      exact absurd hcolon (by decide)

/-- The name of a parameter in WGSL can be read off, and whether it is a pointer. -/
theorem wgslParam_inj (p : Param) (x y : Bool × String) (ps qs : List (Param × Bool × String))
    (a b : List Char) (hx : IsIdentifier x.2) (hy : IsIdentifier y.2)
    (hps : ∀ q ∈ ps, IsIdentifier q.2.2) (hqs : ∀ q ∈ qs, IsIdentifier q.2.2)
    (h : (wgslParam (p, x)).toList ++ behind (ps.map wgslParam) a =
      (wgslParam (p, y)).toList ++ behind (qs.map wgslParam) b) :
    x = y ∧ behind (ps.map wgslParam) a = behind (qs.map wgslParam) b := by
  obtain ⟨pointer, n⟩ := x
  obtain ⟨pointer', m⟩ := y
  simp only [toList_wgslParam, List.append_assoc, List.cons_append] at h
  obtain ⟨hname, _, hrest⟩ := hx.inj hy (by decide) (by decide) h
  have h := (List.cons.inj hrest).2
  have htype : ∀ {type : String} {rest : List Char}, (wgslType type true).toList ++ rest =
      "ptr<function, ".toList ++ (type.toList ++ '>' :: rest) := by
    intro type rest
    simp [wgslType]
  cases pointer <;> cases pointer'
  · exact ⟨Prod.ext rfl hname, List.append_cancel_left h⟩
  · rw [htype] at h
    exact (not_pointer hps h.symm).elim
  · rw [htype] at h
    exact (not_pointer hqs h).elim
  · exact ⟨Prod.ext rfl hname, List.append_cancel_left h⟩

/-- **The glue of a wrapper in WGSL can be read off**, and which parameters are pointers. -/
theorem wgsl_inj (hg : g.Fits s) (hg' : g'.Fits s)
    (hlength : pointers.length = s.wrap.params.length)
    (hlength' : pointers'.length = s.wrap.params.length)
    (h : g.wgsl s pointers = g'.wgsl s pointers') : g = g' ∧ pointers = pointers' := by
  have hlist : ∀ (g : Glue) pointers, (g.wgsl s pointers).toList =
      ("fn " ++ (if s.scope = "" then "" else s.scope ++ "_") ++ s.name ++ "(").toList ++
      ((", ".intercalate ((s.wrap.params.zip (pointers.zip g.names)).map wgslParam)).toList ++
        ')' :: (((if s.wrap.hasResult then " -> " ++ s.wrap.result else "") ++ " \x7b ").toList ++
          ((g.call s).toList ++ " \x7d\n".toList))) := by
    intro g pointers
    have hclose : ")".toList = [')'] := rfl
    unfold wgsl
    simp only [String.toList_append, List.append_assoc, hclose, List.cons_append, List.nil_append]
  have hzip : ∀ {g : Glue} {pointers : List Bool}, g.Fits s →
      pointers.length = s.wrap.params.length →
      (pointers.zip g.names).length = s.wrap.params.length := by
    intro g pointers hg hlength
    rw [List.length_zip, hlength, hg.length, Nat.min_self]
  have hlists := congrArg String.toList h
  rw [hlist, hlist] at hlists
  have hparams := behind_eq_of_list_eq
    (by simp [← List.length_eq_zero_iff, hg.length, hg'.length, hlength, hlength'])
    (List.append_cancel_left hlists)
  obtain ⟨hsame, hrest⟩ := params_inj wgslParam_inj (hzip hg hlength) (hzip hg' hlength')
    (fun x hx => hg.names _ (List.of_mem_zip hx).2) (fun x hx => hg'.names _ (List.of_mem_zip hx).2)
    hparams
  have hboth := congrArg List.unzip hsame
  rw [List.unzip_zip (hlength.trans hg.length.symm),
    List.unzip_zip (hlength'.trans hg'.length.symm)] at hboth
  obtain ⟨hpointers, hnames⟩ := Prod.mk.inj hboth
  exact ⟨ext_of_call hg hg' hnames (call_eq_of_append hrest), hpointers⟩

end

end Glue

/-! ## The glue of a shim -/

/-- Parameters are named by identifiers. -/
theorem Function.isIdentifier_paramName (f : Function) (i : Nat) :
    IsIdentifier (f.paramName i) := by
  have hname : f.paramName i =
      String.ofList ('P' :: (toString (if f.hasResult then i + 1 else i)).toList) := by
    rw [Function.paramName]
    exact String.toList_injective (by simp)
  rw [hname]
  refine isIdentifier_ofList (by decide) fun c hc => .inl ?_
  have hdigit : c.isDigit = true :=
    Nat.isDigit_of_mem_toDigits (by decide) (by decide) (Nat.toList_repr ▸ hc)
  rw [Char.isAlphanum, hdigit, Bool.or_true]

/-- **Different parameters have different names.** -/
theorem Function.paramName_injective (f : Function) : f.paramName.Injective := by
  intro i j h
  rw [Function.paramName, Function.paramName] at h
  have hnumber := Nat.repr_injective ((String.append_right_inj _).1 h)
  split at hnumber <;> omega

/-- The first names are passed on, as many as both sides have. -/
theorem Function.forwarded_eq_take (impl wrap : Function) : Function.forwarded impl wrap =
    wrap.paramNames.take (min impl.params.length wrap.params.length) := by
  rw [forwarded, forwardCount, paramNames, ← List.map_take, List.take_range,
    Nat.min_assoc, Nat.min_self]

namespace Shim

/-- The glue of a shim. -/
def glue (s : Shim) : Glue where
  names := s.wrap.paramNames
  returns := s.wrap.hasResult
  arguments := Function.forwarded s.impl s.wrap

theorem fits_glue (s : Shim) : s.glue.Fits s where
  length := by rw [glue, Function.paramNames, List.length_map, List.length_range]
  names n hn := by
    obtain ⟨i, _, rfl⟩ := List.mem_map.1 hn
    exact s.wrap.isIdentifier_paramName i
  arguments n hn := by
    obtain ⟨i, _, rfl⟩ := List.mem_map.1 hn
    exact s.wrap.isIdentifier_paramName i

/-- The parameters that are written to. -/
def writes (s : Shim) : List Bool :=
  s.wrap.params.map fun p => p.modifier = .output || p.modifier = .inout

theorem hlsl_glue (s : Shim) : s.hlsl = s.glue.hlsl s := rfl

theorem wgsl_glue (s : Shim) : s.wgsl = s.glue.wgsl s s.writes := by
  have hparams : s.namedParams.map (fun x => x.2 ++ ": " ++ wgslType x.1) =
      (s.wrap.params.zip (s.writes.zip s.wrap.paramNames)).map Glue.wgslParam := by
    rw [namedParams, writes]
    generalize s.wrap.paramNames = names
    induction s.wrap.params generalizing names with
    | nil => rfl
    | cons p params ih =>
      cases names with
      | nil => rfl
      | cons n names =>
        simp only [List.zip_cons_cons, List.map_cons, ih, Glue.wgslParam]
        congr 2
        rw [wgslType, Glue.wgslType]
        cases p.modifier <;> rfl
  unfold wgsl Glue.wgsl
  exact congrArg (fun params => "fn " ++ (if s.scope = "" then "" else s.scope ++ "_") ++ s.name ++
    "(" ++ ", ".intercalate params ++ ")" ++
    (if s.wrap.hasResult then " -> " ++ s.wrap.result else "") ++ " \x7b " ++ s.call ++
    " \x7d\n") hparams

/-- **Shims forward the parameters that they declare, the same ones in both dialects.**  Whatever
    the functions, their names and types, the unique name, the override and the scope are, one glue
    is all that the texts of a shim can be read as.  It names every parameter of the wrapper by
    another identifier, passes the first ones on, as many as both functions have, and returns the
    call if the wrapper returns a value.  In WGSL exactly the parameters that are written to are
    pointers. -/
theorem shim_forwards (s : Shim) : ∃ glue : Glue, glue.Fits s ∧ glue.names.Nodup ∧
    (glue.returns = true ↔ s.wrap.result ≠ "") ∧
    glue.arguments = glue.names.take (min s.impl.params.length s.wrap.params.length) ∧
    (∀ g : Glue, g.Fits s → (Dialect.hlsl.shim s = g.hlsl s ↔ g = glue)) ∧
    ∀ (g : Glue) (pointers : List Bool), g.Fits s → pointers.length = s.wrap.params.length →
      (Dialect.wgsl.shim s = g.wgsl s pointers ↔ g = glue ∧
        pointers = s.wrap.params.map fun p => p.modifier = .output || p.modifier = .inout) := by
  refine ⟨s.glue, s.fits_glue, ?_, ?_, Function.forwarded_eq_take s.impl s.wrap,
    fun g hg => ⟨fun h => ?_, fun h => h ▸ s.hlsl_glue⟩,
    fun g pointers hg hlength => ⟨fun h => ?_, ?_⟩⟩
  · exact List.nodup_range.map s.wrap.paramName_injective
  · rw [glue, Function.hasResult, decide_eq_true_eq]
  · exact (Glue.hlsl_inj s.fits_glue hg (s.hlsl_glue.symm.trans h)).symm
  · obtain ⟨hglue, hpointers⟩ := Glue.wgsl_inj s.fits_glue hg (List.length_map _) hlength
      (s.wgsl_glue.symm.trans h)
    exact ⟨hglue.symm, hpointers.symm⟩
  · rintro ⟨rfl, rfl⟩
    exact s.wgsl_glue

/-- A wrapper that returns a value and writes to its second parameter, and an implementation that
    takes more parameters; some of the texts look like glue. -/
example : Dialect.wgsl.shim
    { impl := { name := "return f", params := [⟨"u32", .none⟩, ⟨"f32", .none⟩, ⟨"f32", .none⟩] },
      wrap := { name := "Load", result := "u32",
                params := [⟨"u32, P2: ptr<function", .input⟩, ⟨"f32", .output⟩] },
      uid := "DI1_Buffer", scope := "Out" } =
    "fn Out_Load(P1: u32, P2: ptr<function, P2: ptr<function, f32>) -> u32 " ++
      "\x7b return return f_DI1_Buffer(P1, P2); \x7d\n" := by
  decide

end Shim

end KernelGraph
