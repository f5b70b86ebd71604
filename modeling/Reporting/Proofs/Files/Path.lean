import Mathlib.Logic.Basic
import Mathlib.Tactic.SplitIfs
import Reporting.Files.Tree
import Reporting.Proofs.Text.Pieces

/-! Where a path leads by its names alone. Joining lets the names of the second path follow those of
the first, and a plain name leads one step down. -/

namespace Reporting

namespace Path

theorem names_of_not_mem {name : String} (h : '/' ∉ name.toList) : names name = [name] := by
  rw [names, Text.splitOn_of_not_mem h, List.map_singleton, String.ofList_toList]

theorem names_append_slash (a b : String) : names (a ++ "/" ++ b) = names a ++ names b := by
  have hslash : "/".toList = ['/'] := rfl
  simp only [names, String.toList_append, hslash, List.append_assoc, List.singleton_append,
    Text.splitOn_append, List.map_append]

theorem not_mem_of_mem_names {path name : String} (h : name ∈ names path) : '/' ∉ name.toList := by
  obtain ⟨cs, hcs, rfl⟩ := List.mem_map.mp h
  rw [String.toList_ofList]
  exact Text.not_mem_of_mem_splitOn hcs

theorem names_ofNames {ns : List String} (hne : ns ≠ []) (h : ∀ n ∈ ns, '/' ∉ n.toList) :
    names (ofNames ns) = ns := by
  have hsplit : Text.splitOn '/' (ofNames ns).toList = ns.map String.toList :=
    Text.splitOn_intercalate rfl hne h
  rw [names, hsplit, List.map_map]
  simp [Function.comp_def]

theorem dropIdle_concat {n : String} (h : isIdle n = false) (ns : List String) :
    dropIdle (ns ++ [n]) = ns ++ [n] := by
  rw [dropIdle, List.reverse_append, List.reverse_singleton, List.singleton_append,
    List.dropWhile_cons_of_neg (by rw [h]; exact Bool.false_ne_true), List.reverse_cons,
    List.reverse_reverse]

theorem names_parent {path m n : String} {ns : List String}
    (h : names path = ns ++ [m] ++ [n]) (hm : isIdle m = false) (hn : isIdle n = false) :
    names (parent path) = ns ++ [m] := by
  have hne : ns ++ [m] ≠ [] := List.append_ne_nil_of_right_ne_nil _ (List.cons_ne_nil _ _)
  have hslash : ∀ k ∈ ns ++ [m], '/' ∉ k.toList := fun k hk =>
    not_mem_of_mem_names (h ▸ List.mem_append_left _ hk)
  have hempty : (ns ++ [m]).isEmpty = false := List.isEmpty_eq_false_iff.mpr hne
  simp only [parent, h, dropIdle_concat hn, dropIdle_concat hm, List.dropLast_concat, hempty,
    Bool.false_and, Bool.false_eq_true, if_false]
  exact names_ofNames hne hslash

def base (path : String) : List String :=
  if path.isEmpty || path.toList.getLast? == some '/' then (names path).dropLast else names path

theorem names_of_ends {path : String} (h : path.toList.getLast? = some '/') (rest : String) :
    names (path ++ rest) = (names path).dropLast ++ names rest ∧
      names path = (names path).dropLast ++ [""] := by
  obtain ⟨cs, hcs⟩ := List.getLast?_eq_some_iff.mp h
  have hpath : path = .ofList cs ++ "/" ++ "" := by
    rw [String.append_empty, ← String.toList_inj, hcs]
    simp
  have hrest : path ++ rest = .ofList cs ++ "/" ++ rest := by rw [hpath, String.append_empty]
  have hnames : names path = names (.ofList cs) ++ [""] :=
    (congrArg names hpath).trans (names_append_slash _ "")
  rw [hrest, names_append_slash, hnames, List.dropLast_concat]
  exact ⟨rfl, rfl⟩

theorem names_eq_base (path : String) : names path = base path ∨ names path = base path ++ [""] := by
  unfold base
  split_ifs with h
  · right
    rcases Bool.or_eq_true_iff.mp h with hempty | hends
    · rw [String.isEmpty_iff.mp hempty]
      rfl
    · exact (names_of_ends (beq_iff_eq.mp hends) "").2
  · exact .inl rfl

theorem names_join (directory : String) {path : String} (h : isAbsolute path = false) :
    names (join directory path) = base directory ++ names path := by
  unfold join base
  rw [h, Bool.false_or]
  cases hempty : directory.isEmpty with
  | true =>
    rw [Bool.true_or, if_pos rfl, if_pos rfl, String.isEmpty_iff.mp hempty]
    rfl
  | false =>
    rw [Bool.false_or, if_neg Bool.false_ne_true]
    split_ifs with hends
    · exact (names_of_ends (beq_iff_eq.mp hends) path).1
    · exact names_append_slash directory path

/-- The place to which names lead from another one, as if every directory on the way were there. -/
def placeFrom : Location → List String → Location
  | here, [] => here
  | here, name :: names =>
    if isIdle name then placeFrom here names
    else if name = ".." then placeFrom here.dropLast names
    else placeFrom (here ++ [name]) names

def place (path : String) : Location := placeFrom [] (names path)

theorem placeFrom_append (here : Location) (as bs : List String) :
    placeFrom here (as ++ bs) = placeFrom (placeFrom here as) bs := by
  induction as generalizing here with
  | nil => rfl
  | cons a as ih =>
    simp only [List.cons_append, placeFrom, ih]
    split_ifs <;> rfl

theorem isPrefix_placeFrom {ns : List String} (h : ".." ∉ ns) (here : Location) :
    here <+: placeFrom here ns := by
  induction ns generalizing here with
  | nil => exact List.prefix_rfl
  | cons n ns ih =>
    obtain ⟨hn, hns⟩ := not_or.mp (List.mem_cons.not.mp h)
    rw [placeFrom, if_neg fun hup : n = ".." => hn hup.symm]
    split_ifs
    · exact ih hns here
    · exact (List.prefix_append here [n]).trans (ih hns _)

theorem place_eq_base (path : String) : place path = placeFrom [] (base path) := by
  unfold place
  rcases names_eq_base path with h | h
  · rw [h]
  · rw [h, placeFrom_append]
    rfl

theorem place_join (directory : String) {path : String} (h : isAbsolute path = false) :
    place (join directory path) = placeFrom (place directory) (names path) := by
  rw [place, names_join directory h, placeFrom_append, ← place_eq_base]

structure IsPlain (name : String) : Prop where
  notIdle : isIdle name = false
  notUp : name ≠ ".."
  noSlash : '/' ∉ name.toList

theorem IsPlain.isAbsolute {name : String} (h : IsPlain name) : isAbsolute name = false := by
  rw [Path.isAbsolute, beq_eq_false_iff_ne]
  exact fun hhead => h.noSlash (List.mem_of_head? hhead)

theorem IsPlain.names {name : String} (h : IsPlain name) : names name = [name] :=
  names_of_not_mem h.noSlash

theorem placeFrom_plain (here : Location) {ns : List String} (h : ∀ n ∈ ns, IsPlain n) :
    placeFrom here ns = here ++ ns := by
  induction ns generalizing here with
  | nil => exact (List.append_nil here).symm
  | cons n ns ih =>
    obtain ⟨hn, hns⟩ := List.forall_mem_cons.mp h
    rw [placeFrom, if_neg (by rw [hn.notIdle]; exact Bool.false_ne_true), if_neg hn.notUp, ih _ hns,
      List.append_assoc, List.singleton_append]

theorem IsPlain.place_join {name : String} (h : IsPlain name) (directory : String) :
    place (join directory name) = place directory ++ [name] := by
  rw [Path.place_join directory h.isAbsolute, h.names]
  exact placeFrom_plain _ (List.forall_mem_singleton.mpr h)

theorem names_join_plain {directory name : String} {ns : List String} {n : String}
    (hdirectory : names directory = ns ++ [n]) (hn : IsPlain n) (hname : IsPlain name) :
    names (join directory name) = ns ++ [n] ++ [name] := by
  have hbase : base directory = ns ++ [n] := by
    rcases names_eq_base directory with h | h
    · rw [← h, hdirectory]
    · -- a plain name is not the empty one behind a slash
      rw [hdirectory] at h
      have hempty : n = "" := List.singleton_inj.mp (List.append_inj_right' h rfl)
      have hidle := hn.notIdle
      rw [hempty] at hidle
      exact absurd hidle (by decide)
  rw [names_join _ hname.isAbsolute, hbase, hname.names]

def EndsInName (path : String) : Prop := ∃ c ∈ path.toList.getLast?, c ≠ '/'

theorem IsPlain.endsInName {name : String} (h : IsPlain name) : EndsInName name := by
  have hne : name.toList ≠ [] := by
    intro hnil
    have hidle := h.notIdle
    rw [String.toList_eq_nil_iff.mp hnil] at hidle
    exact absurd hidle (by decide)
  refine ⟨name.toList.getLast hne, List.getLast?_eq_some_getLast hne, ?_⟩
  rintro hslash
  exact h.noSlash (hslash ▸ List.getLast_mem hne)

theorem join_eq {directory path : String} (hdirectory : EndsInName directory)
    (hpath : isAbsolute path = false) : join directory path = directory ++ "/" ++ path := by
  obtain ⟨c, hlast, hc⟩ := hdirectory
  have hempty : directory.isEmpty = false := by
    refine Bool.eq_false_iff.mpr fun hempty => ?_
    rw [String.isEmpty_iff.mp hempty] at hlast
    cases hlast
  have hslash : (directory.toList.getLast? == some '/') = false := by
    rw [Option.mem_def.mp hlast]
    simpa using hc
  rw [join, hpath, hempty, hslash]
  rfl

theorem EndsInName.append {name : String} (h : EndsInName name) (directory : String) :
    EndsInName (directory ++ "/" ++ name) := by
  obtain ⟨c, hlast, hc⟩ := h
  refine ⟨c, ?_, hc⟩
  rw [String.toList_append, List.getLast?_append, Option.mem_def.mp hlast]
  rfl

theorem isAbsolute_eq_false {path name : String} {ns : List String}
    (h : names path = name :: ns) (hname : IsPlain name) : isAbsolute path = false := by
  rw [isAbsolute, beq_eq_false_iff_ne]
  intro hhead
  obtain ⟨cs, hcs⟩ := List.head?_eq_some_iff.mp hhead
  rw [names, hcs, Text.splitOn, if_pos rfl] at h
  have hidle := hname.notIdle
  rw [← (List.cons.inj h).1] at hidle
  exact absurd hidle (by decide)

theorem IsPlain.ofMem {name : String} {c : Char} (hc : c ∈ name.toList) (hdot : c ≠ '.')
    (h : '/' ∉ name.toList) : IsPlain name := by
  refine ⟨?_, ?_, h⟩
  · refine Bool.eq_false_iff.mpr fun hidle => ?_
    rcases Bool.or_eq_true_iff.mp hidle with hempty | hself
    · rw [String.isEmpty_iff.mp hempty] at hc
      cases hc
    · rw [beq_iff_eq.mp hself] at hc
      exact hdot (List.mem_singleton.mp hc)
  · rintro rfl
    rcases List.mem_cons.mp hc with h | h
    · exact hdot h
    · exact hdot (List.mem_singleton.mp h)

end Path

end Reporting
