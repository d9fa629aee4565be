import ResolverTypes.Proofs.File.Path
import ResolverTypes.Proofs.File.Store
import ResolverTypes.Service.Declaration

/-!
# The names of declarations

A declaration is named after the stem of its service, or after the whole path below the services if
another service has that stem.  Which of these names can be the same:

* `IsDeclaration.not_same`: none is that of a service;
* `not_same_of_alone`: two services that are alone with their stems never share one;
* `same_declarationPath_iff`: a name made of a whole path ends with a script extension;
* `not_same_of_plain`: without dots in the names of folders and in stems there is no other case.
-/

namespace ResolverTypes
open ResolverTypes.Path

/-! ## services and declarations -/

/-- a name or a path that ends like that of a declaration -/
def IsDeclaration (text : String) : Prop := ".d.ts".toList <:+ text.toList

theorem Path.baseName_eq_of_same {p q : Path} (h : p.same q = true) : p.baseName = q.baseName := by
  unfold baseName fileName?
  rw [same_iff.mp h]

theorem IsDeclaration.ne_empty {name : String} (h : IsDeclaration name) : name ≠ "" := by
  rintro rfl
  exact absurd (List.eq_nil_of_suffix_nil h) (by decide)

theorem IsDeclaration.not_isServiceFile {name : String} (h : IsDeclaration name) :
    isServiceFile name = false := by
  obtain ⟨before, hbefore⟩ := h
  have hcut : splitLast? '.' name.toList = some (before ++ ".d".toList, "ts".toList) := by
    refine splitLast?_eq_some_iff.mpr ⟨?_, by decide⟩
    rw [← hbefore]
    simp
  unfold isServiceFile
  rw [hcut]
  have hend : (excludedEndings.any fun e => e.toList.isSuffixOf (before ++ ".d".toList)) = true := by
    refine List.any_eq_true.mpr ⟨".d", by decide, ?_⟩
    rw [List.isSuffixOf_iff_suffix]
    exact List.suffix_append _ _
  dsimp only
  rw [hend, Bool.not_true, Bool.and_false]

theorem IsDeclaration.baseName {p : Path} (h : IsDeclaration p.text) : IsDeclaration p.baseName :=
  suffix_baseName (by decide) (by decide) h

/-- no declaration is a service -/
theorem IsDeclaration.not_same {p q : Path} (h : IsDeclaration p.text)
    (hq : isServiceFile q.baseName = true) : p.same q = false := by
  rw [Bool.eq_false_iff]
  intro hsame
  rw [← baseName_eq_of_same hsame, h.baseName.not_isServiceFile] at hq
  cases hq

theorem isDeclaration_append (name : String) : IsDeclaration (name ++ ".d.ts") := by
  unfold IsDeclaration
  rw [String.toList_append]
  exact List.suffix_append _ _

theorem IsDeclaration.join {name : String} (h : IsDeclaration name) (base : Path) :
    IsDeclaration (base.join ⟨name⟩).text :=
  suffix_join h

theorem isDeclaration_declarationPath (s : PathSettings) (services : List Path) (p : Path) :
    IsDeclaration (s.declarationPath services p).text :=
  (isDeclaration_append _).join s.types

/-- the name of a service: a stem, a dot and an extension -/
theorem cut_of_isServiceFile {name : String} (h : isServiceFile name = true) :
    ∃ before ext, name.toList = before ++ '.' :: ext ∧ '.' ∉ ext ∧
      String.ofList ext ∈ serviceExtensions := by
  unfold isServiceFile at h
  split at h
  · cases h
  · next before ext hcut =>
    obtain ⟨hname, hdot⟩ := splitLast?_eq_some_iff.mp hcut
    rw [Bool.and_eq_true] at h
    exact ⟨before, ext, hname, hdot, List.contains_iff_mem.mp h.1⟩

theorem fileName?_of_isServiceFile {p : Path} (h : isServiceFile p.baseName = true) :
    p.fileName? = some p.baseName := by
  unfold baseName at h ⊢
  cases hname : p.fileName? with
  | none =>
    rw [hname] at h
    exact absurd h (by decide)
  | some name => rfl

/-! ## twins -/

/-- whether another service has the stem of this one -/
def hasTwin (services : List Path) (p : Path) : Bool :=
  services.any fun other => !other.same p && other.stem == p.stem

/-- the components of a path with dots between them -/
def dottedName (p : Path) : String := String.intercalate "." (p.components.map (·.text))

theorem declarationPath_of_alone {services : List Path} {p : Path} (h : hasTwin services p = false)
    (s : PathSettings) : s.declarationPath services p = s.types.join ⟨p.stem ++ ".d.ts"⟩ := by
  unfold PathSettings.declarationPath
  unfold hasTwin at h
  rw [h]
  cases p.relativeTo? s.services <;> rfl

theorem declarationPath_of_twin {services : List Path} {p r : Path} {s : PathSettings}
    (h : hasTwin services p = true) (hr : p.relativeTo? s.services = some r) :
    s.declarationPath services p = s.types.join ⟨dottedName r ++ ".d.ts"⟩ := by
  unfold PathSettings.declarationPath
  unfold hasTwin at h
  rw [h, hr]
  rfl

/-! ## stems -/

theorem cutName_fst (name : String) :
    (cutName name).1 = name ∨
      ∃ before after, name.toList = before ++ '.' :: after ∧ '.' ∉ after ∧ before ≠ [] ∧
        cutName name = (String.ofList before, some (String.ofList after)) := by
  unfold cutName
  split
  · exact .inl rfl
  · next before after hne hcut =>
    obtain ⟨hname, hdot⟩ := splitLast?_eq_some_iff.mp hcut
    exact .inr ⟨before, after, hname, hdot, hne, rfl⟩
  · exact .inl rfl

theorem slash_notMem_stem (p : Path) : '/' ∉ p.stem.toList := by
  unfold stem
  cases hname : p.fileName? with
  | none => simp
  | some name =>
    obtain ⟨before, hp⟩ := components_of_fileName? hname
    have hslash : '/' ∉ name.toList := slash_notMem_of_name (by rw [hp]; simp)
    show '/' ∉ (cutName name).1.toList
    rcases cutName_fst name with heq | ⟨before, after, hcut, -, -, heq⟩
    · rwa [heq]
    · rw [heq, String.toList_ofList]
      rw [hcut] at hslash
      exact fun h => hslash (List.mem_append_left _ h)

theorem components_join_declaration (base : Path) {name : String} (h : '/' ∉ name.toList) :
    (base.join ⟨name ++ ".d.ts"⟩).components = base.components ++ [.name (name ++ ".d.ts")] := by
  refine components_join_name base ?_ ?_
  · rw [String.toList_append, List.mem_append, not_or]
    exact ⟨h, by decide⟩
  · rw [String.toList_append, List.length_append]
    have hlen : ".d.ts".toList.length = 5 := by decide
    omega

/-- names without slashes give the same file only if they are the same -/
theorem same_join_iff (base : Path) {a b : String} (ha : '/' ∉ a.toList) (hb : '/' ∉ b.toList) :
    (base.join ⟨a ++ ".d.ts"⟩).same (base.join ⟨b ++ ".d.ts"⟩) = true ↔ a = b := by
  rw [same_iff, components_join_declaration base ha, components_join_declaration base hb]
  simp [← String.toList_inj]

/-! ## services below a directory -/

/-- a service among the files below the services -/
structure IsServiceBelow (s : PathSettings) (p : Path) : Prop where
  named : isServiceFile p.baseName = true
  below : p.startsWith s.services = true
  proper : p.same s.services = false

/-- the path of a service below the services ends with its file name -/
theorem IsServiceBelow.relative {s : PathSettings} {p : Path} (h : IsServiceBelow s p) :
    ∃ r before, p.relativeTo? s.services = some r ∧
      p.components = s.services.components ++ r.components ∧
      r.components = before ++ [.name p.baseName] := by
  obtain ⟨r, hr⟩ : ∃ r, p.relativeTo? s.services = some r :=
    ⟨_, by rw [relativeTo?, if_pos h.below]⟩
  have hp := components_of_relativeTo? hr
  have hne : r.components ≠ [] := by
    intro hnil
    rw [hnil, List.append_nil] at hp
    have hsame := h.proper
    rw [same_iff.mpr hp] at hsame
    cases hsame
  obtain ⟨before, hlast⟩ := components_of_fileName? (fileName?_of_isServiceFile h.named)
  refine ⟨r, r.components.dropLast, hr, hp, ?_⟩
  have hget : r.components.getLast hne = .name p.baseName := by
    have hall : (s.services.components ++ r.components).getLast? = some (.name p.baseName) := by
      rw [← hp, hlast]
      simp
    rw [List.getLast?_append_of_ne_nil _ hne, List.getLast?_eq_some_getLast hne] at hall
    exact Option.some.inj hall
  rw [← hget, List.dropLast_concat_getLast]

theorem suffix_dottedName {r : Path} {before : List Component} {name : String}
    (h : r.components = before ++ [.name name]) : name.toList <:+ (dottedName r).toList := by
  unfold dottedName
  rw [h, String.toList_intercalate]
  clear h
  induction before with
  | nil => simp [Component.text]
  | cons c before ih =>
    rw [List.cons_append, List.map_cons, List.map_cons, List.intercalate_cons_of_ne_nil (by simp)]
    exact ih.trans (List.suffix_append _ _)

/-- a name made of a whole path is not that of a file with another ending -/
theorem not_same_of_ending {s : PathSettings} {p r : Path} (h : IsServiceBelow s p)
    (hr : p.relativeTo? s.services = some r) {name : String} (hslash : '/' ∉ name.toList)
    (hend : ∀ ext ∈ serviceExtensions, ¬ '.' :: ext.toList <:+ name.toList) :
    (s.types.join ⟨name ++ ".d.ts"⟩).same (s.types.join ⟨dottedName r ++ ".d.ts"⟩) = false := by
  obtain ⟨before, ext, hname, -, hext⟩ := cut_of_isServiceFile h.named
  obtain ⟨r', dirs, hr', -, hcomponents⟩ := h.relative
  cases hr.symm.trans hr'
  rw [Bool.eq_false_iff]
  intro hsame
  refine hend _ hext ?_
  have hdotted : '.' :: ext <:+ (dottedName r).toList :=
    (hname ▸ List.suffix_append before _).trans (suffix_dottedName hcomponents)
  have hbase : '.' :: ext ++ ".d.ts".toList <:+
      (s.types.join ⟨dottedName r ++ ".d.ts"⟩).baseName.toList := by
    have hno : ∀ e ∈ serviceExtensions, '/' ∉ '.' :: e.toList ++ ".d.ts".toList := by decide
    refine suffix_baseName ?_ ?_ (suffix_join ?_)
    · simpa using hno _ hext
    · have hlen : ".d.ts".toList.length = 5 := by decide
      rw [List.length_append]
      omega
    · obtain ⟨start, hstart⟩ := hdotted
      exact ⟨start, by rw [String.toList_append, ← hstart, List.append_assoc]⟩
  have hfile := fileName?_of_components (components_join_declaration s.types hslash)
  rw [← baseName_eq_of_same hsame, baseName, hfile, Option.getD_some, String.toList_append] at hbase
  obtain ⟨start, hstart⟩ := hbase
  rw [← List.append_assoc] at hstart
  exact ⟨start, by rw [String.toList_ofList]; exact List.append_cancel_right hstart⟩

/-- a declaration has the name of a file with another ending only if it is named after a stem -/
theorem same_declarationPath_iff {s : PathSettings} {services : List Path} {p : Path}
    (h : IsServiceBelow s p) {name : String} (hslash : '/' ∉ name.toList)
    (hend : ∀ ext ∈ serviceExtensions, ¬ '.' :: ext.toList <:+ name.toList) :
    (s.types.join ⟨name ++ ".d.ts"⟩).same (s.declarationPath services p) = true ↔
      hasTwin services p = false ∧ p.stem = name := by
  cases htwin : hasTwin services p with
  | true =>
    obtain ⟨r, -, hr, -, -⟩ := h.relative
    rw [declarationPath_of_twin htwin hr, not_same_of_ending h hr hslash hend]
    simp
  | false =>
    rw [declarationPath_of_alone htwin, same_join_iff _ hslash (slash_notMem_stem p)]
    simp [eq_comm]

/-- two services that are alone with their stems have different names -/
theorem not_same_of_alone {services : List Path} {p q : Path} (hp : p ∈ services)
    (hne : p.same q = false) (hap : hasTwin services p = false) (haq : hasTwin services q = false)
    (s : PathSettings) :
    (s.declarationPath services p).same (s.declarationPath services q) = false := by
  rw [declarationPath_of_alone hap, declarationPath_of_alone haq, Bool.eq_false_iff, Ne,
    same_join_iff _ (slash_notMem_stem p) (slash_notMem_stem q)]
  intro hstem
  have htwin : hasTwin services q = true :=
    List.any_eq_true.mpr ⟨p, hp, by simp [hne, hstem]⟩
  rw [htwin] at haq
  cases haq

/-! ## names without dots -/

/-- a step whose name has no dot in it -/
def Component.isPlain : Component → Bool
  | .name n => !n.toList.contains '.'
  | .root | .here | .up => false

/-- a file below the services with no dot in the names of its folders and in its stem -/
def isPlainBelow (s : PathSettings) (p : Path) : Bool :=
  match p.relativeTo? s.services with
  | some r => r.components.dropLast.all Component.isPlain && !p.stem.toList.contains '.'
  | none => false

theorem dot_notMem_stem {s : PathSettings} {p : Path} (h : isPlainBelow s p = true) :
    '.' ∉ p.stem.toList := by
  unfold isPlainBelow at h
  split at h
  · rw [Bool.and_eq_true] at h
    simpa using h.2
  · cases h

theorem splitOn_intercalate {parts : List (List Char)} (h : parts ≠ []) (sep : Char) :
    Text.splitOn sep ([sep].intercalate parts) = parts.flatMap (Text.splitOn sep) := by
  induction parts with
  | nil => exact absurd rfl h
  | cons part rest ih =>
    cases rest with
    | nil => simp
    | cons next rest =>
      rw [List.intercalate_cons_cons, List.append_assoc, List.singleton_append,
        Text.splitOn_append_cons, ih nofun]
      rfl

theorem flatMap_splitOn {parts : List (List Char)} {sep : Char} (h : ∀ part ∈ parts, sep ∉ part) :
    parts.flatMap (Text.splitOn sep) = parts := by
  induction parts with
  | nil => rfl
  | cons part rest ih =>
    rw [List.flatMap_cons, Text.splitOn_of_notMem (h part List.mem_cons_self),
      ih fun x hx => h x (List.mem_cons_of_mem _ hx), List.singleton_append]

theorem notMem_intercalate {c : Char} {sep : List Char} {parts : List (List Char)} (hsep : c ∉ sep)
    (h : ∀ part ∈ parts, c ∉ part) : c ∉ sep.intercalate parts := by
  induction parts with
  | nil => simp
  | cons part rest ih =>
    have hrest := ih fun x hx => h x (List.mem_cons_of_mem _ hx)
    by_cases hnil : rest = []
    · rw [hnil, List.intercalate_singleton]
      exact h part List.mem_cons_self
    · rw [List.intercalate_cons_of_ne_nil hnil]
      simp [h part List.mem_cons_self, hsep, hrest]

theorem exists_names_of_plain {cs : List Component} (h : cs.all Component.isPlain = true) :
    ∃ dirs : List String, cs = dirs.map .name ∧ ∀ d ∈ dirs, '.' ∉ d.toList := by
  induction cs with
  | nil => exact ⟨[], rfl, by simp⟩
  | cons c cs ih =>
    rw [List.all_cons, Bool.and_eq_true] at h
    obtain ⟨dirs, rfl, hdirs⟩ := ih h.2
    cases c with
    | name n =>
      refine ⟨n :: dirs, rfl, fun d hd => ?_⟩
      rcases List.mem_cons.mp hd with rfl | hd
      · simpa [Component.isPlain] using h.1
      · exact hdirs d hd
    | root | here | up => exact absurd h.1 (by decide)

/-- the parts between the dots of a plain name: the folders, the stem and the extension -/
theorem IsServiceBelow.plain_parts {s : PathSettings} {p r : Path} (h : IsServiceBelow s p)
    (hr : p.relativeTo? s.services = some r) (hplain : isPlainBelow s p = true) :
    ∃ (dirs : List String) (ext : List Char),
      r.components = dirs.map .name ++ [.name (String.ofList (p.stem.toList ++ '.' :: ext))] ∧
      Text.splitOn '.' (dottedName r).toList = dirs.map String.toList ++ [p.stem.toList, ext] ∧
      '/' ∉ (dottedName r).toList := by
  obtain ⟨r', before, hr', hp, hcomponents⟩ := h.relative
  cases hr.symm.trans hr'
  have hstem := dot_notMem_stem hplain
  unfold isPlainBelow at hplain
  rw [hr] at hplain
  dsimp only at hplain
  rw [hcomponents, List.dropLast_concat, Bool.and_eq_true] at hplain
  obtain ⟨dirs, rfl, hdirs⟩ := exists_names_of_plain hplain.1
  -- the stem is what stands before the last dot of the file name
  obtain ⟨ext, hname, hext⟩ : ∃ ext, p.baseName.toList = p.stem.toList ++ '.' :: ext ∧ '.' ∉ ext := by
    have hfile := fileName?_of_isServiceFile h.named
    have hcut : p.stem = (cutName p.baseName).1 := by
      rw [stem, hfile]
      rfl
    rcases cutName_fst p.baseName with heq | ⟨before, after, hname, hdot, -, heq⟩
    · obtain ⟨b, e, hname, -, -⟩ := cut_of_isServiceFile h.named
      rw [hcut, heq, hname] at hstem
      exact absurd (List.mem_append_right b List.mem_cons_self) hstem
    · refine ⟨after, ?_, hdot⟩
      rw [hcut, heq, String.toList_ofList, hname]
  have hdotted : (dottedName r).toList = ['.'].intercalate
      (dirs.map String.toList ++ [p.stem.toList ++ '.' :: ext]) := by
    rw [dottedName, hcomponents, String.toList_intercalate, ← hname]
    simp [Function.comp_def, Component.text]
  refine ⟨dirs, ext, ?_, ?_, ?_⟩
  · rw [hcomponents, ← hname, String.ofList_toList]
  · rw [hdotted, splitOn_intercalate (by simp), List.flatMap_append, List.flatMap_singleton,
      Text.splitOn_append_cons, Text.splitOn_of_notMem hstem, Text.splitOn_of_notMem hext,
      flatMap_splitOn (by simpa using hdirs), List.singleton_append]
  · have hnames : ∀ n, .name n ∈ r.components → '/' ∉ n.toList := fun n hn =>
      slash_notMem_of_name (by rw [hp]; exact List.mem_append_right _ hn)
    rw [hdotted, ← hname]
    refine notMem_intercalate (by decide) fun part hpart => ?_
    rcases List.mem_append.mp hpart with hpart | hpart
    · obtain ⟨d, hd, rfl⟩ := List.mem_map.mp hpart
      exact hnames d (by rw [hcomponents]; simp [hd])
    · rw [List.mem_singleton.mp hpart]
      exact hnames p.baseName (by rw [hcomponents]; simp)

/-- a plain service with a twin shares its name with no other plain service -/
theorem not_same_of_plain {s : PathSettings} {services : List Path} {p q : Path}
    (hp : IsServiceBelow s p) (hq : IsServiceBelow s q) (hne : p.same q = false)
    (hpp : isPlainBelow s p = true) (hpq : isPlainBelow s q = true)
    (htwin : hasTwin services p = true) :
    (s.declarationPath services p).same (s.declarationPath services q) = false := by
  obtain ⟨r, -, hr, hpr, -⟩ := hp.relative
  obtain ⟨dirs, ext, hcomp, hsplit, hslash⟩ := hp.plain_parts hr hpp
  obtain ⟨r', -, hr', hqr, -⟩ := hq.relative
  obtain ⟨dirs', ext', hcomp', hsplit', hslash'⟩ := hq.plain_parts hr' hpq
  rw [Bool.eq_false_iff]
  intro hsame
  rw [declarationPath_of_twin htwin hr] at hsame
  cases hq' : hasTwin services q with
  | true =>
    rw [declarationPath_of_twin hq' hr', same_join_iff _ hslash hslash'] at hsame
    rw [hsame, hsplit'] at hsplit
    have hlen : [q.stem.toList, ext'].length = [p.stem.toList, ext].length := by simp
    obtain ⟨hdirs, hlast⟩ := List.append_inj' hsplit hlen
    have hdirs' : dirs' = dirs := List.map_inj_right (fun _ _ => String.toList_inj.mp) |>.mp hdirs
    have hfile : q.stem.toList = p.stem.toList ∧ ext' = ext := by simpa using hlast
    have heq : p.components = q.components := by
      rw [hpr, hqr, hcomp, hcomp', hdirs', hfile.1, hfile.2]
    rw [same_iff.mpr heq] at hne
    cases hne
  | false =>
    rw [declarationPath_of_alone hq', same_join_iff _ hslash (slash_notMem_stem q)] at hsame
    rw [hsame, Text.splitOn_of_notMem (dot_notMem_stem hpq)] at hsplit
    have hlen := congrArg List.length hsplit
    simp at hlen

end ResolverTypes
