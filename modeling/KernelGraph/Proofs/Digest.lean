/-
  Digests as text and as bytes.

  The text of a digest has forty characters and determines it, and so do its twenty bytes.  Hence a
  digest at the end of a key, or of a hashed content, can be cut off again.  Nothing is assumed of
  the digest function itself: where a statement needs that two contents have different digests, it
  says `Collide` for the case that they do not.
-/
import KernelGraph.Digest
import Mathlib.Data.List.Nodup
import Mathlib.Logic.Function.Basic

namespace KernelGraph

/-! ## Cutting texts by length -/

namespace Text

theorem append_inj {s t u v : String} (h : s ++ t = u ++ v) (hlen : s.length = u.length) :
    s = u ∧ t = v := by
  have hlist := congrArg String.toList h
  rw [String.toList_append, String.toList_append] at hlist
  obtain ⟨hs, ht⟩ := List.append_inj hlist (by rwa [String.length_toList, String.length_toList])
  exact ⟨String.toList_injective hs, String.toList_injective ht⟩

theorem append_inj' {s t u v : String} (h : s ++ t = u ++ v) (hlen : t.length = v.length) :
    s = u ∧ t = v := by
  have hsum := congrArg String.length h
  rw [String.length_append, String.length_append] at hsum
  exact append_inj h (by omega)

/-- Texts of given lengths are told apart by their concatenation. -/
theorem join_injective : ∀ {ss ts : List String}, ss.map String.length = ts.map String.length →
    String.join ss = String.join ts → ss = ts := by
  intro ss
  induction ss with
  | nil =>
    intro ts hlen _
    exact (List.map_eq_nil_iff.1 hlen.symm).symm
  | cons s ss ih =>
    intro ts hlen h
    cases ts with
    | nil => cases hlen
    | cons t ts =>
      obtain ⟨hhead, htail⟩ := List.cons.inj hlen
      rw [String.join_cons, String.join_cons] at h
      obtain ⟨hst, hrest⟩ := append_inj h hhead
      rw [hst, ih htail hrest]

end Text

/-- Blocks of one length, each of which tells what it stands for, tell the list. -/
theorem flatMap_injective {α β : Type} {f : α → List β} {n : Nat} (hf : Function.Injective f)
    (hlen : ∀ a, (f a).length = n + 1) :
    ∀ {as bs : List α}, as.flatMap f = bs.flatMap f → as = bs := by
  intro as
  induction as with
  | nil =>
    intro bs h
    cases bs with
    | nil => rfl
    | cons b bs =>
      have hzero := congrArg List.length h
      rw [List.flatMap_nil, List.flatMap_cons, List.length_append, hlen, List.length_nil] at hzero
      omega
  | cons a as ih =>
    intro bs h
    cases bs with
    | nil =>
      have hzero := congrArg List.length h
      rw [List.flatMap_nil, List.flatMap_cons, List.length_append, hlen, List.length_nil] at hzero
      omega
    | cons b bs =>
      rw [List.flatMap_cons, List.flatMap_cons] at h
      obtain ⟨hhead, htail⟩ := List.append_inj h (by rw [hlen, hlen])
      rw [hf hhead, ih htail]

namespace Digest

/-- Two different byte strings with one digest. -/
def Collide (a b : ByteArray) : Prop := a ≠ b ∧ sha1 a = sha1 b

theorem collide_or_eq {a b : ByteArray} (h : sha1 a = sha1 b) : Collide a b ∨ a = b := by
  by_cases hab : a = b
  · exact Or.inr hab
  · exact Or.inl ⟨hab, h⟩

/-! ## Twenty bytes -/

theorem wordBytes_injective : Function.Injective wordBytes := by
  intro a b h
  simp only [wordBytes, List.cons.injEq, and_true] at h
  obtain ⟨h3, h2, h1, h0⟩ := h
  have e3 := congrArg UInt8.toNat h3
  have e2 := congrArg UInt8.toNat h2
  have e1 := congrArg UInt8.toNat h1
  have e0 := congrArg UInt8.toNat h0
  simp only [UInt32.toNat_toUInt8, UInt32.toNat_shiftRight, UInt32.reduceToNat,
    Nat.shiftRight_eq_div_pow, Nat.reduceMod, Nat.reducePow] at e3 e2 e1 e0
  apply UInt32.toNat_inj.1
  have ha := a.toNat_lt
  have hb := b.toNat_lt
  omega

theorem length_toBytes (d : Digest) : d.toBytes.length = 20 := rfl

theorem toBytes_injective : Function.Injective toBytes := by
  intro a b h
  simp only [toBytes, words, List.flatMap_cons, List.flatMap_nil, List.append_nil] at h
  obtain ⟨h0, h⟩ := List.append_inj h rfl
  obtain ⟨h1, h⟩ := List.append_inj h rfl
  obtain ⟨h2, h⟩ := List.append_inj h rfl
  obtain ⟨h3, h4⟩ := List.append_inj h rfl
  cases a
  cases b
  rw [Digest.mk.injEq]
  exact ⟨wordBytes_injective h0, wordBytes_injective h1, wordBytes_injective h2,
    wordBytes_injective h3, wordBytes_injective h4⟩

/-! ## Forty characters -/

theorem hexDigit_injective : ∀ m n : Fin 16, hexDigit m = hexDigit n → m = n := by decide

theorem byteHex_injective : Function.Injective byteHex := by
  intro a b h
  simp only [byteHex, List.cons.injEq, and_true] at h
  have ha := a.toNat_lt
  have hb := b.toNat_lt
  have hhigh := hexDigit_injective ⟨a.toNat / 16, by omega⟩ ⟨b.toNat / 16, by omega⟩ h.1
  have hlow := hexDigit_injective ⟨a.toNat % 16, by omega⟩ ⟨b.toNat % 16, by omega⟩ h.2
  have e1 := Fin.mk.inj hhigh
  have e2 := Fin.mk.inj hlow
  apply UInt8.toNat_inj.1
  omega

theorem toHex_injective : Function.Injective toHex := by
  intro a b h
  exact toBytes_injective
    (flatMap_injective (n := 1) byteHex_injective (fun _ => rfl) (String.ofList_injective h))

theorem length_toHex (d : Digest) : d.toHex.length = 40 := by
  rw [toHex, String.length_ofList]
  rfl

/-- A digest at the end of a text can be cut off. -/
theorem append_toHex_inj {s t : String} {a b : Digest} (h : s ++ a.toHex = t ++ b.toHex) :
    s = t ∧ a = b := by
  obtain ⟨hs, ht⟩ := Text.append_inj' h (by rw [length_toHex, length_toHex])
  exact ⟨hs, toHex_injective ht⟩

/-- Digests as bytes, one behind the other, tell the digests. -/
theorem flatMap_toBytes_injective {ds es : List Digest}
    (h : ds.flatMap toBytes = es.flatMap toBytes) : ds = es :=
  flatMap_injective (n := 19) toBytes_injective length_toBytes h

theorem length_flatMap_toBytes (ds : List Digest) :
    (ds.flatMap toBytes).length = 20 * ds.length := by
  induction ds with
  | nil => rfl
  | cons d ds ih =>
    rw [List.flatMap_cons, List.length_append, length_toBytes, ih, List.length_cons]
    omega

/-! ## Digests that are evaluated

The same rounds on numbers and lists.  Words and arrays are slow to evaluate in proofs, numerals are
not. -/

/-- The working words as numbers. -/
structure State where
  (a b c d e : Nat)
  deriving DecidableEq

/-- The words of a digest as numbers. -/
def toState (d : Digest) : State :=
  ⟨d.w0.toNat, d.w1.toNat, d.w2.toNat, d.w3.toNat, d.w4.toNat⟩

theorem toState_injective : Function.Injective toState := by
  intro x y h
  cases x
  cases y
  simp only [toState, State.mk.injEq, UInt32.toNat_inj] at h
  obtain ⟨rfl, rfl, rfl, rfl, rfl⟩ := h
  rfl

namespace State

/-- Rotation of a number below `2 ^ 32` to the left. -/
def rotate (w n : Nat) : Nat := w <<< n % 4294967296 ||| w >>> (32 - n)

theorem toNat_rotate (w : UInt32) {n : UInt32} (h0 : 0 < n.toNat) (hn : n.toNat < 32) :
    (Digest.rotate w n).toNat = rotate w.toNat n.toNat := by
  have hle : n ≤ 32 := UInt32.le_iff_toNat_le.2 (Nat.le_of_lt hn)
  have hsub : (32 - n).toNat = 32 - n.toNat := UInt32.toNat_sub_of_le _ _ hle
  have hmod : (32 - n.toNat) % 32 = 32 - n.toNat := Nat.mod_eq_of_lt (by omega)
  rw [Digest.rotate, rotate, UInt32.toNat_or, UInt32.toNat_shiftLeft, UInt32.toNat_shiftRight, hsub,
    hmod, Nat.mod_eq_of_lt hn]

/-- What round `t` adds of the three words that it leaves, with its constant. -/
def mixed (t b c d : Nat) : Nat :=
  if t < 20 then (b &&& c ||| (4294967295 - b) &&& d) + 0x5a827999
  else if t < 40 then (b ^^^ c ^^^ d) + 0x6ed9eba1
  else if t < 60 then (b &&& c ||| b &&& d ||| c &&& d) + 0x8f1bbcdc
  else (b ^^^ c ^^^ d) + 0xca62c1d6

/-- Round `t`. -/
def round (t w : Nat) (s : State) : State :=
  ⟨(rotate s.a 5 + mixed t s.b s.c s.d + s.e + w) % 4294967296, s.a, rotate s.b 30, s.c, s.d⟩

theorem toState_round (t : Nat) (w : UInt32) (s : Digest) :
    (Digest.round t w s).toState = round t w.toNat s.toState := by
  have h5 : (Digest.rotate s.w0 5).toNat = rotate s.w0.toNat 5 :=
    toNat_rotate s.w0 (by decide) (by decide)
  have h30 : (Digest.rotate s.w1 30).toNat = rotate s.w1.toNat 30 :=
    toNat_rotate s.w1 (by decide) (by decide)
  unfold Digest.round round mixed toState
  by_cases h20 : t < 20
  · simp [h20, h5, h30, Nat.add_assoc, Nat.add_left_comm]
  · by_cases h40 : t < 40
    · simp [h20, h40, h5, h30, Nat.add_assoc, Nat.add_left_comm]
    · by_cases h60 : t < 60
      · simp [h20, h40, h60, h5, h30, Nat.add_assoc, Nat.add_left_comm]
      · simp [h20, h40, h60, h5, h30, Nat.add_assoc, Nat.add_left_comm]

/-- Rounds from `t` on, one for each word. -/
def rounds : Nat → List Nat → State → State
  | _, [], s => s
  | t, w :: ws, s => rounds (t + 1) ws (round t w s)

theorem rounds_append (t : Nat) (ws vs : List Nat) (s : State) :
    rounds t (ws ++ vs) s = rounds (t + ws.length) vs (rounds t ws s) := by
  induction ws generalizing t s with
  | nil => rfl
  | cons w ws ih =>
    rw [List.cons_append, rounds, rounds, ih, List.length_cons, Nat.add_assoc, Nat.add_comm 1]

theorem toState_rounds (w : Array UInt32) (s : Digest) : ∀ n ≤ w.size,
    (Nat.fold n (fun t _ r => Digest.round t (w.getD t 0) r) s).toState =
      rounds 0 ((w.toList.take n).map UInt32.toNat) s.toState := by
  intro n
  induction n with
  | zero => exact fun _ => rfl
  | succ n ih =>
    intro hn
    have hget : w.toList.take (n + 1) = w.toList.take n ++ [w.getD n 0] := by
      rw [List.take_succ_eq_append_getElem hn, Array.getD_eq_getD_getElem?,
        Array.getElem?_eq_getElem hn]
      rfl
    rw [Nat.fold_succ, toState_round, ih (Nat.le_of_succ_le hn), hget, List.map_append,
      rounds_append, List.length_map, List.length_take, Array.length_toList,
      Nat.min_eq_left (Nat.le_of_succ_le hn), Nat.zero_add]
    rfl

/-- Expands words by as many more, the last one first. -/
def expand : Nat → List Nat → List Nat
  | 0, ws => ws
  | n + 1, ws =>
    let vs := expand n ws
    rotate (vs.getD 2 0 ^^^ vs.getD 7 0 ^^^ vs.getD 13 0 ^^^ vs.getD 15 0) 1 :: vs

theorem getD_reverse (w : Array UInt32) {i j : Nat} (h : i + j + 1 = w.size) :
    (w.toList.map UInt32.toNat).reverse.getD j 0 = (w.getD i 0).toNat := by
  have hi : i < w.size := by omega
  have hindex : (w.toList.map UInt32.toNat).length - 1 - j = i := by
    rw [List.length_map, Array.length_toList]
    omega
  rw [List.getD_eq_getElem?_getD, List.getElem?_reverse (by simp; omega), hindex, List.getElem?_map,
    Array.getElem?_toList, Array.getD_eq_getD_getElem?, Array.getElem?_eq_getElem hi]
  rfl

theorem expand_push {first : Array UInt32} (hsize : first.size = 16) (n : Nat) :
    let w := Nat.fold n (fun i _ w => w.push (Digest.rotate
      (w.getD (i + 13) 0 ^^^ w.getD (i + 8) 0 ^^^ w.getD (i + 2) 0 ^^^ w.getD i 0) 1)) first
    w.size = n + 16 ∧ (w.toList.map UInt32.toNat).reverse =
      expand n (first.toList.map UInt32.toNat).reverse := by
  induction n with
  | zero => exact ⟨hsize, rfl⟩
  | succ n ih =>
    dsimp only at ih ⊢
    rw [Nat.fold_succ]
    generalize Nat.fold n _ first = w at ih
    obtain ⟨hw, hwords⟩ := ih
    refine ⟨?_, ?_⟩
    · rw [Array.size_push, hw, Nat.add_right_comm]
    · have hrotate : ∀ x : UInt32, (Digest.rotate x 1).toNat = rotate x.toNat 1 :=
        fun x => toNat_rotate x (by decide) (by decide)
      rw [expand, ← hwords, getD_reverse w (i := n + 13) (by omega),
        getD_reverse w (i := n + 8) (by omega), getD_reverse w (i := n + 2) (by omega),
        getD_reverse w (i := n) (by omega), Array.toList_push, List.map_append,
        List.reverse_append]
      simp [hrotate]

/-- The padded message. -/
def padded (message : List UInt8) : List UInt8 :=
  let zeros : List UInt8 := (List.range ((119 - message.length % 64) % 64)).map fun _ => 0
  let bits : List UInt8 :=
    (List.range 8).map fun i => ((message.length * 8) >>> (8 * (7 - i))).toUInt8
  message ++ 0x80 :: zeros ++ bits

theorem toList_data_fold_push (f : Nat → UInt8) (bytes : ByteArray) (n : Nat) :
    (Nat.fold n (fun i _ out => out.push (f i)) bytes).data.toList =
      bytes.data.toList ++ (List.range n).map f := by
  induction n with
  | zero => exact (List.append_nil _).symm
  | succ n ih =>
    rw [Nat.fold_succ, ByteArray.data_push, Array.toList_push, ih, List.range_succ, List.map_append,
      List.append_assoc]
    rfl

theorem toList_data_pad (message : ByteArray) :
    (pad message).data.toList = padded message.data.toList := by
  have hlength : message.data.toList.length = message.size := Array.length_toList
  unfold pad padded
  dsimp only
  rw [toList_data_fold_push, toList_data_fold_push, ByteArray.data_push, Array.toList_push, hlength,
    List.append_assoc message.data.toList [0x80]]
  rfl

theorem byteAt_eq (bytes : ByteArray) (i : Nat) : byteAt bytes i = bytes.data.toList.getD i 0 := by
  unfold byteAt
  split
  · rename_i h
    rw [List.getD_eq_getElem?_getD, Array.getElem?_toList, Array.getElem?_eq_getElem h]
    rfl
  · rename_i h
    rw [List.getD_eq_getElem?_getD, Array.getElem?_toList,
      Array.getElem?_eq_none (Nat.le_of_not_lt h)]
    rfl

/-- The number of which four bytes are the digits, the most significant first. -/
def word (bytes : List UInt8) (i : Nat) : Nat :=
  (bytes.getD i 0).toNat <<< 24 ||| (bytes.getD (i + 1) 0).toNat <<< 16 |||
    (bytes.getD (i + 2) 0).toNat <<< 8 ||| (bytes.getD (i + 3) 0).toNat

theorem toNat_blockWord (bytes : ByteArray) (start i : Nat) :
    (blockWord bytes start i).toNat = word bytes.data.toList (start + 4 * i) := by
  have hshift : ∀ {b : UInt8} {k : Nat}, k ≤ 24 → b.toNat <<< k % 4294967296 = b.toNat <<< k := by
    intro b k hk
    have hb := b.toNat_lt
    have hpow : 2 ^ k ≤ 2 ^ 24 := Nat.pow_le_pow_right (by decide) hk
    refine Nat.mod_eq_of_lt ?_
    rw [Nat.shiftLeft_eq]
    exact Nat.lt_of_lt_of_le (Nat.mul_lt_mul_of_lt_of_le hb hpow (by decide)) (by decide)
  unfold blockWord word
  simp [byteAt_eq, hshift]

/-- The words of a block, the last one first. -/
def block (bytes : List UInt8) (start : Nat) : List Nat :=
  ((List.range 16).map fun i => word bytes (start + 4 * i)).reverse

/-- Mixes a block into the state. -/
def compress (ws : List Nat) (s : State) : State :=
  let r := rounds 0 (expand 64 ws).reverse s
  ⟨(s.a + r.a) % 4294967296, (s.b + r.b) % 4294967296, (s.c + r.c) % 4294967296,
    (s.d + r.d) % 4294967296, (s.e + r.e) % 4294967296⟩

theorem toList_fold_push (f : Nat → UInt32) (n : Nat) :
    (Nat.fold n (fun i _ out => out.push (f i)) #[]).toList = (List.range n).map f := by
  induction n with
  | zero => rfl
  | succ n ih => rw [Nat.fold_succ, Array.toList_push, ih, List.range_succ, List.map_append]; rfl

theorem expand_schedule (bytes : ByteArray) (start : Nat) : (schedule bytes start).size = 80 ∧
    ((schedule bytes start).toList.map UInt32.toNat).reverse = expand 64
    (block bytes.data.toList start) := by
  have hfirst := toList_fold_push (blockWord bytes start) 16
  have hsize : (Nat.fold 16 (fun i _ out => out.push (blockWord bytes start i)) #[]).size = 16 := by
    rw [← Array.length_toList, hfirst]
    rfl
  have hpush := expand_push hsize 64
  rw [hfirst, List.map_map] at hpush
  have hblock : (List.range 16).map (UInt32.toNat ∘ blockWord bytes start) =
      (List.range 16).map fun i => word bytes.data.toList (start + 4 * i) :=
    List.map_congr_left fun i _ => toNat_blockWord bytes start i
  rw [hblock] at hpush
  exact hpush

theorem toState_compress (bytes : ByteArray) (s : Digest) (start : Nat) :
    (Digest.compress bytes s start).toState = compress (block bytes.data.toList start)
    s.toState := by
  obtain ⟨hsize, hwords⟩ := expand_schedule bytes start
  have hrounds := toState_rounds (schedule bytes start) s 80 (Nat.le_of_eq hsize.symm)
  rw [List.take_of_length_le (Nat.le_of_eq hsize), ← List.reverse_reverse (List.map _ _),
    hwords] at hrounds
  unfold Digest.compress compress
  dsimp only
  rw [← hrounds]
  simp [toState]

/-- The digest of a byte string as numbers. -/
def sha1 (message : ByteArray) : State :=
  let bytes := padded message.data.toList
  Nat.fold (bytes.length / 64) (fun i _ s => compress (block bytes (64 * i)) s)
    ⟨0x67452301, 0xefcdab89, 0x98badcfe, 0x10325476, 0xc3d2e1f0⟩

theorem toState_sha1 (message : ByteArray) : (Digest.sha1 message).toState = sha1 message := by
  have hsize : (pad message).size = (padded message.data.toList).length := by
    rw [← toList_data_pad]
    exact Array.length_toList.symm
  unfold Digest.sha1 sha1
  dsimp only
  rw [hsize]
  induction (padded message.data.toList).length / 64 with
  | zero => rfl
  | succ n ih => rw [Nat.fold_succ, Nat.fold_succ, toState_compress, ih, toList_data_pad]

end State

theorem sha1_eq {message : ByteArray} {d : Digest} (h : State.sha1 message = d.toState) :
    sha1 message = d :=
  toState_injective ((State.toState_sha1 message).trans h)

/-- Digests are told apart by their numbers. -/
theorem nodup_sha1 {messages : List ByteArray} (h : (messages.map State.sha1).Nodup) :
    (messages.map sha1).Nodup := by
  have hnumbers : messages.map State.sha1 = (messages.map sha1).map toState := by
    rw [List.map_map]
    exact List.map_congr_left fun m _ => (State.toState_sha1 m).symm
  rw [hnumbers] at h
  exact List.Nodup.of_map _ h

end Digest

namespace Hasher

theorem content_write (h : Hasher) (s : String) :
    (h.write s).content = h.content ++ s.toByteArray := rfl

/-- Writing texts one after the other is writing their concatenation. -/
theorem content_foldl_write (h : Hasher) (texts : List String) :
    (texts.foldl write h).content = h.content ++ (String.join texts).toByteArray := by
  induction texts generalizing h with
  | nil => simp
  | cons s ss ih =>
    rw [List.foldl_cons, ih, content_write, String.join_cons, String.toByteArray_append,
      ByteArray.append_assoc]

/-- Writing digests one after the other adds their bytes. -/
theorem bytes_foldl_writeDigest (h : Hasher) (ds : List Digest) :
    (ds.foldl writeDigest h).content.data.toList =
      h.content.data.toList ++ ds.flatMap Digest.toBytes := by
  induction ds generalizing h with
  | nil => rw [List.foldl_nil, List.flatMap_nil, List.append_nil]
  | cons d ds ih =>
    have hwrite : (h.writeDigest d).content.data.toList = h.content.data.toList ++ d.toBytes :=
      ByteArray.toList_data_append
    rw [List.foldl_cons, ih, hwrite, List.flatMap_cons, List.append_assoc]

end Hasher

end KernelGraph
