import TowerFold.Proofs.Packed.Kernel
import TowerFold.Strategy.Layered

/-!
# Rounds on whole arrays

The fold by packed layers, as it goes on arrays with an element in every row. In a round the rows
are taken in pairs, for which the words of the array are only given other axes; the second rows of
all pairs are multiplied by one factor and added to the first ones, both at once for the whole
layer. An array that holds a layer of packed elements holds the joined layer after the round, so
the first row after all rounds is the fold by packed layers.
-/

namespace TowerFold

namespace Grid

/-- The entries of a grid under other axes, in the same order row by row. There have to be as many
of them. -/
def reshaped (axes : List Nat) (g : Grid UInt64) : Except Fault (Grid UInt64) :=
  if axes.foldl (· * ·) 1 = g.count then .ok (ofItems axes g.items)
  else .error (.shapeMismatch g.shape axes.reverse)

/-- The slice at one place of the second innermost axis. -/
def side (g : Grid UInt64) (place : Nat) : Grid UInt64 :=
  ⟨g.axes.eraseIdx 1, fun index => g.entry (index.insertIdx 1 place)⟩

/-- One round: the rows of a layer, in pairs, are joined by one factor. -/
def joinRows (layer factor : Grid UInt64) : Except Fault (Grid UInt64) := do
  let pairs ← layer.reshaped [4, 2, layer.shape.headD 0 / 2]
  add (pairs.side 0) (← packedMul (pairs.side 1) factor)

/-- The rows of an array. -/
def rows (g : Grid UInt64) : List (Grid UInt64) := g.slices?.getD []

end Grid

/-- The fold by packed layers on arrays: a round for every row of the factors, the last one first,
and the first row of what is left. -/
def foldArrays (values factors : List Operand) : Except Fault Operand := do
  let layer := Grid.ofRows (← packValues values)
  let factors := Grid.ofRows (← packValues factors)
  let last ← factors.rows.reverse.foldlM (fun layer factor => layer.joinRows factor) layer
  match last.rows with
  | row :: _ => return .qm31 (← unpackRow (.ofGrid row))
  | [] => throw .shortAxis

namespace Grid

/-! ## One round -/

/-- A packed element in the place of one that is missing. -/
def absent : Packed := ⟨0, 0, 0, 0⟩

/-- An array holds a layer of packed elements, one in every row. -/
structure HoldsLayer (layer : List Packed) (g : Grid UInt64) : Prop where
  axes_eq : g.axes = [4, layer.length]
  entry_eq {j i : Nat} (hj : j < 4) (hi : i < layer.length) :
    g.entry [j, i] = (layer.getD i absent).word j

/-- A row holds one packed element. -/
structure HoldsElement (x : Packed) (row : Grid UInt64) : Prop where
  axes_eq : row.axes = [4]
  packedAt_eq : row.packedAt [] = x

variable {g h : Grid UInt64} {layer xs ys : List Packed} {factor : Packed} {m : Nat}

theorem mem_indices_pair {a b : Nat} {index : List Nat} :
    index ∈ indices [a, b] ↔ ∃ j < a, ∃ i < b, index = [j, i] := by
  simp only [indices, List.flatMap_cons, List.flatMap_nil, List.append_nil, List.mem_flatMap,
    List.mem_map, List.mem_range]
  constructor
  · rintro ⟨_, ⟨i, hi, rfl⟩, j, hj, rfl⟩
    exact ⟨j, hj, i, hi, rfl⟩
  · rintro ⟨j, hj, i, hi, rfl⟩
    exact ⟨[i], ⟨i, hi, rfl⟩, j, hj, rfl⟩

/-- The array of packed elements holds them. -/
theorem holdsLayer_ofRows (layer : List Packed) : HoldsLayer layer (ofRows layer) where
  axes_eq := by simp [ofRows, unpacked]
  entry_eq _ _ := by
    simp [ofRows, unpacked, absent, Array.getD_eq_getD_getElem?, List.getD_eq_getElem?_getD]

namespace HoldsLayer

/-- An element is found in the row that holds it. -/
theorem packedAt_eq (hg : HoldsLayer layer g) {i : Nat} (hi : i < layer.length) :
    g.packedAt [i] = layer.getD i absent := by
  simp only [packedAt, hg.entry_eq (by decide : 0 < 4) hi, hg.entry_eq (by decide : 1 < 4) hi,
    hg.entry_eq (by decide : 2 < 4) hi, hg.entry_eq (by decide : 3 < 4) hi, Packed.word]

/-- Arrays that hold as many elements are added row by row. -/
theorem add (hg : HoldsLayer xs g) (hh : HoldsLayer ys h) (hlength : xs.length = ys.length) :
    ∃ sum, Grid.add g h = .ok sum ∧ HoldsLayer (List.zipWith Packed.add xs ys) sum := by
  have hself {k : Grid UInt64} (hk : k.axes = [4, xs.length]) : Holds [4, xs.length] k.entry k :=
    ⟨hk, fun _ _ => rfl⟩
  obtain ⟨sum, hsum, haxes, hentry⟩ :=
    zipWith_of_holds Word.add (hself hg.axes_eq) (hself (hlength ▸ hh.axes_eq))
  have hcount : (List.zipWith Packed.add xs ys).length = xs.length := by
    rw [List.length_zipWith, hlength, Nat.min_self]
  refine ⟨sum, hsum, ⟨hcount ▸ haxes, fun {j i} hj hi => ?_⟩⟩
  rw [hcount] at hi
  rw [hentry _ (mem_indices_pair.mpr ⟨j, hj, i, hi, rfl⟩), hg.entry_eq hj hi,
    hh.entry_eq hj (hlength ▸ hi)]
  have hword (x y : Packed) : Word.add (x.word j) (y.word j) = (x.add y).word j := by
    match j with
    | 0 | 1 | 2 | j + 3 => rfl
  rw [hword]
  simp [List.getD_eq_getElem?_getD, hi, hlength ▸ hi]

/-- All rows are multiplied by the element in one row. -/
theorem packedMul (hg : HoldsLayer xs g) (hh : HoldsElement factor h) :
    ∃ product, Grid.packedMul g h = .ok product ∧
      HoldsLayer (xs.map (Packed.mul · factor)) product := by
  have hfits : Fits [xs.length] [] := fun _ => .inr (.inr rfl)
  have hstretched : stretched [xs.length] [] = [xs.length] := by
    rw [stretched_comm hfits, stretched_nil_left]
  refine ⟨_, packedMul_of_fits hg.axes_eq hh.axes_eq le_rfl le_rfl hfits, ?_, ?_⟩
  · rw [List.length_map]
    exact congrArg (4 :: ·) hstretched
  · intro j i hj hi
    rw [List.length_map] at hi
    have hindex : [i] ∈ indices [xs.length] := by simpa [indices] using hi
    have hproduct : (g.packedAt (project [xs.length] [i])).mul (h.packedAt (project [] [i])) =
        (xs.getD i absent).mul factor := by
      rw [project_of_mem hindex, hg.packedAt_eq hi]
      exact congrArg _ hh.packedAt_eq
    refine (congrArg (Packed.word · j) hproduct).trans ?_
    simp [List.getD_eq_getElem?_getD, hi]

end HoldsLayer

/-- The first elements of the pairs of a layer, or the second ones. -/
def everyOther (layer : List Packed) (m place : Nat) : List Packed :=
  (List.range m).map fun i => layer.getD (2 * i + place) absent

theorem length_everyOther (layer : List Packed) (m place : Nat) :
    (everyOther layer m place).length = m := by
  rw [everyOther, List.length_map, List.length_range]

/-- A layer is joined pair by pair. -/
theorem joinPacked_eq_zipWith (factor : Packed) (hlayer : layer.length = 2 * m) :
    joinPacked factor layer = List.zipWith Packed.add (everyOther layer m 0)
      ((everyOther layer m 1).map (Packed.mul · factor)) := by
  induction m generalizing layer with
  | zero =>
    obtain rfl := List.length_eq_zero_iff.mp hlayer
    rfl
  | succ m ih =>
    match layer, hlayer with
    | left :: right :: rest, hlayer =>
      have hrest : rest.length = 2 * m := by
        simp only [List.length_cons] at hlayer
        omega
      have hshift (place i : Nat) : (left :: right :: rest).getD (2 * (i + 1) + place) absent =
          rest.getD (2 * i + place) absent := by
        have hplace : 2 * (i + 1) + place = 2 * i + place + 1 + 1 := by omega
        rw [hplace, List.getD_cons_succ, List.getD_cons_succ]
      have htail (place : Nat) : everyOther (left :: right :: rest) (m + 1) place =
          (left :: right :: rest).getD place absent :: everyOther rest m place := by
        simp only [everyOther, List.range_succ_eq_map, List.map_cons, List.map_map,
          Function.comp_def, Nat.succ_eq_add_one, hshift, Nat.mul_zero, Nat.zero_add]
      rw [joinPacked, ih hrest, htail, htail]
      rfl

/-- The rows of a layer are taken in pairs. -/
theorem HoldsLayer.exists_pairs (hg : HoldsLayer layer g) (hlayer : layer.length = 2 * m) :
    ∃ pairs, g.reshaped [4, 2, g.shape.headD 0 / 2] = .ok pairs ∧
      ∀ place < 2, HoldsLayer (everyOther layer m place) (pairs.side place) := by
  have hhalf : g.shape.headD 0 / 2 = m := by
    rw [shape, hg.axes_eq, hlayer]
    exact Nat.mul_div_cancel_left m (by decide)
  have hcount : [4, 2, m].foldl (· * ·) 1 = g.count := by
    rw [count, hg.axes_eq, hlayer]
    simp only [List.foldl_cons, List.foldl_nil]
    omega
  rw [hhalf, reshaped, if_pos hcount]
  refine ⟨_, rfl, fun place hplace => ⟨by rw [length_everyOther]; rfl, fun {j i} hj hi => ?_⟩⟩
  rw [length_everyOther] at hi
  have hrow : 2 * i + place < layer.length := by omega
  have hindex : [j, 2 * i + place] ∈ indices g.axes := by
    rw [hg.axes_eq]
    exact mem_indices_pair.mpr ⟨j, hj, _, hrow, rfl⟩
  have hposition : position [4, 2, m] [j, place, i] = position g.axes [j, 2 * i + place] := by
    rw [hg.axes_eq]
    simp only [position]
    omega
  refine (entry_ofItems hindex hposition).trans ((hg.entry_eq hj hrow).trans ?_)
  simp [everyOther, List.getD_eq_getElem?_getD, hi]

/-- A round leaves an array that holds the joined layer. -/
theorem HoldsLayer.joinRows (hg : HoldsLayer layer g) (hh : HoldsElement factor h)
    (hlayer : layer.length = 2 * m) :
    ∃ next, g.joinRows h = .ok next ∧ HoldsLayer (joinPacked factor layer) next := by
  obtain ⟨pairs, hpairs, hside⟩ := hg.exists_pairs hlayer
  obtain ⟨product, hproduct, hscaled⟩ := (hside 1 (by decide)).packedMul hh
  obtain ⟨next, hnext, hjoined⟩ := (hside 0 (by decide)).add hscaled
    (by rw [List.length_map, length_everyOther, length_everyOther])
  refine ⟨next, ?_, ?_⟩
  · rw [Grid.joinRows, hpairs, ok_bind, hproduct, ok_bind, hnext]
  · rwa [joinPacked_eq_zipWith factor hlayer]

/-- From a row that holds an element this element is unpacked. -/
theorem HoldsElement.unpackRow_eq (hh : HoldsElement factor h) :
    unpackRow (.ofGrid h) = .ok factor.toQM31 := by
  have hrow : Operand.ofGrid h = h.row [] :=
    Operand.ofGrid_congr hh.axes_eq fun index _ => congrArg h.entry (List.append_nil index).symm
  rw [hrow, unpackRow_row, hh.packedAt_eq]

/-! ## All rounds -/

/-- The rows of an array hold the elements of the layer that the array holds. -/
theorem HoldsLayer.rows (hg : HoldsLayer layer g) :
    List.Forall₂ HoldsElement layer g.rows := by
  have hshape : g.shape = [layer.length, 4] := by
    rw [shape, hg.axes_eq]
    rfl
  have hrows : g.rows = (List.range layer.length).map fun i =>
      ⟨[4], fun index => g.entry (index ++ [i])⟩ := by
    rw [Grid.rows, slices?, hshape]
    rfl
  rw [hrows]
  refine List.forall₂_iff_get.mpr ⟨by simp, fun i hi _ => ?_⟩
  have hrow := hg.packedAt_eq hi
  rw [List.getD_eq_getElem _ _ hi] at hrow
  simpa using ⟨rfl, hrow⟩

/-- Joining halves the length of a layer. -/
theorem length_joinPacked (factor : Packed) (hlayer : layer.length = 2 * m) :
    (joinPacked factor layer).length = m := by
  rw [joinPacked_eq_zipWith factor hlayer, List.length_zipWith, List.length_map,
    length_everyOther, length_everyOther, Nat.min_self]

/-- Rounds with the rows of several factors leave an array that holds the layer after as many
rounds, which has one element where the sizes match. -/
theorem HoldsLayer.foldlM_joinRows {factors : List Packed} {rounds : List (Grid UInt64)}
    (hrounds : List.Forall₂ HoldsElement factors rounds) (hg : HoldsLayer layer g)
    (hlayer : layer.length = 2 ^ factors.length) :
    ∃ last x, rounds.foldlM (fun layer factor => layer.joinRows factor) g = .ok last ∧
      factors.foldl (fun layer factor => joinPacked factor layer) layer = [x] ∧
      HoldsLayer [x] last := by
  induction hrounds generalizing layer g with
  | nil =>
    obtain ⟨x, rfl⟩ := List.length_eq_one_iff.mp hlayer
    exact ⟨g, x, rfl, rfl, hg⟩
  | @cons factor row factors rounds hrow _ ih =>
    have hpairs : layer.length = 2 * 2 ^ factors.length := by
      rw [hlayer, List.length_cons, Nat.pow_succ']
    obtain ⟨next, hnext, hholds⟩ := hg.joinRows hrow hpairs
    obtain ⟨last, x, hlast, hx, hresult⟩ := ih hholds (length_joinPacked factor hpairs)
    refine ⟨last, x, ?_, hx, hresult⟩
    rw [List.foldlM_cons, hnext, ok_bind, hlast]

end Grid

/-! ## The whole fold -/

/-- A list that is gone through without a miss keeps its length. -/
theorem length_of_mapM_eq_some {α β : Type} {f : α → Option β} {items : List α} {results : List β}
    (h : items.mapM f = some results) : results.length = items.length := by
  induction items generalizing results with
  | nil =>
    cases h
    rfl
  | cons item items ih =>
    simp only [List.mapM_cons, Option.bind_eq_bind, Option.bind_eq_some_iff, Option.pure_def,
      Option.some.injEq] at h
    obtain ⟨first, _, others, hothers, rfl⟩ := h
    rw [List.length_cons, List.length_cons, ih hothers]

/-- As many elements are packed as there are irregular ones. -/
theorem length_of_packRepresentatives {rs : List Representative} {xs : List Packed}
    (hxs : packRepresentatives rs = .ok xs) : xs.length = rs.length := by
  unfold packRepresentatives at hxs
  split at hxs
  case h_1 g =>
    split at hxs
    case isTrue hcount =>
      obtain rfl := Except.ok.inj hxs
      rw [List.length_map, Grid.length_items, hcount, List.length_singleton]
    case isFalse => cases hxs
  case h_2 =>
    simp only [bind_eq_ok_iff, pure_eq_ok, Except.ok.injEq] at hxs
    obtain ⟨_, _, words, hwords, rfl⟩ := hxs
    rw [List.length_map, length_of_mapM_eq_ok hwords]

/-- As many elements are packed as there are operands. -/
theorem length_of_packValues {values : List Operand} {xs : List Packed}
    (hxs : packValues values = .ok xs) : xs.length = values.length := by
  unfold packValues at hxs
  split at hxs
  case h_1 ks hks =>
    obtain rfl := Except.ok.inj hxs
    rw [List.length_map, length_of_mapM_eq_some hks]
  case h_2 =>
    split at hxs
    case h_1 rs hrs => rw [length_of_packRepresentatives hxs, length_of_mapM_eq_some hrs]
    case h_2 => exact length_of_mapM_eq_ok hxs

/-- Where sizes match, the fold on arrays is the fold by packed layers. -/
theorem foldArrays_eq_foldLayered {values factors : List Operand}
    (hsizes : values.length = 2 ^ factors.length) :
    foldArrays values factors = foldLayered values factors := by
  rw [foldArrays, foldLayered]
  cases hvalues : packValues values with
  | error fault => rfl
  | ok layer =>
    cases hfactors : packValues factors with
    | error fault => rfl
    | ok fs =>
      have hlayer : layer.length = 2 ^ fs.reverse.length := by
        rw [length_of_packValues hvalues, hsizes, List.length_reverse,
          length_of_packValues hfactors]
      have hrounds := List.rel_reverse (Grid.holdsLayer_ofRows fs).rows
      obtain ⟨last, x, hlast, hx, hresult⟩ :=
        (Grid.holdsLayer_ofRows layer).foldlM_joinRows hrounds hlayer
      obtain ⟨row, _, hrow, hnil, hrows⟩ := List.forall₂_cons_left_iff.mp hresult.rows
      simp only [ok_bind, hlast, hrows, hx, hrow.unpackRow_eq]

end TowerFold
