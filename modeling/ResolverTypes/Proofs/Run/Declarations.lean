import ResolverTypes.Proofs.Run.Coverage
import ResolverTypes.Proofs.Service.Interface

/-!
# What the declarations of services hold

A look at a service that writes a file writes the declaration of the exports that the service has at that
time (`FileSystem.written_of_look`).  Two things are told about it, on any file system and for any project.

* `imports_of_look`          the artifacts it imports: those of the types it prints, and those of the root
                             types of idle objects.  The latter are printed nowhere, so that an import may
                             be there for nothing (`import_unused`);
* `interfaceNames_of_look`   when its interfaces have names of their own.  The first character of a name is
                             put in upper case, so functions like `a` and `A` share a name
                             (`interfaceNames_clash`), and nothing else does.
-/

namespace ResolverTypes

namespace FileSystem
variable {m : Type → Type} [Monad m] {σ : Type} {fs : FileSystem m σ}

theorem write_of_carryOut {path : Path} {text : String} {s s' : σ}
    (h : fs.carryOut [(path, text)] s = (.ok (), s')) : fs.write s path text = (.ok (), s') := by
  rcases hw : fs.write s path text with ⟨reason | _, t⟩
  · rw [carryOut_cons_error hw] at h
    cases h
  · rw [carryOut_cons_ok hw] at h
    cases h
    rfl

/-- what a look has written is the declaration of the exports it has read -/
theorem written_of_look {settings : PathSettings} {project : Project} {path target : Path} {s s' : σ}
    {look : Run.Look} (h : fs.exec (Run.lookAt fs.files settings project path) s = (look, s'))
    (hwritten : look.result = .ok (some target)) :
    ∃ script es, fs.read s path = some script ∧ Script.Exports.ofFile path script = .ok es ∧
      fs.write s target (serviceDeclaration settings (settings.display path).text
        ((analyze project es).interfaces project.catalog)) = (.ok (), s') := by
  cases ha : Run.analysisAt (fs.read s) project path with
  | error e =>
    rw [exec_lookAt_error ha] at h
    cases h
    cases hwritten
  | ok a =>
    obtain ⟨script, es, hscript, hes, rfl⟩ := Run.analysisAt_ok ha
    rw [exec_lookAt_ok ha, attempt_declare] at h
    split at h
    · cases h
      obtain ⟨path', hpath, hsome⟩ := ok_of_map hwritten
      cases hsome
      obtain ⟨⟨⟩, hwrite, rfl⟩ := ok_of_map hpath
      exact ⟨script, es, hscript, hes, write_of_carryOut (Prod.ext hwrite rfl)⟩
    · cases h
      cases hwritten

end FileSystem

/-! ## imports -/

/-- **which artifacts a declaration imports**: whenever a look at a service writes a declaration, it is laid
out with imports of exactly the artifacts that some interface prints a name of, and of those that declare
the root type of an object without a matched function -/
theorem imports_of_look {m : Type → Type} [Monad m] {σ : Type} (fs : FileSystem m σ)
    {settings : PathSettings} {project : Project} {path target : Path} {s s' : σ} {look : Run.Look}
    (h : fs.exec (Run.lookAt fs.files settings project path) s = (look, s'))
    (hwritten : look.result = .ok (some target)) :
    ∃ script es declaration imports,
      fs.read s path = some script ∧ Script.Exports.ofFile path script = .ok es ∧
      fs.write s target declaration = (.ok (), s') ∧
      declaration.toList = declarationChars settings (settings.display path).text imports
        ((analyze project es).interfaces project.catalog) ∧
      ∀ a, a ∈ imports ↔
        (∃ i ∈ (analyze project es).interfaces project.catalog, i.Prints a) ∨
          project.HasIdleResolver es a := by
  obtain ⟨script, es, hscript, hes, hwrite⟩ := FileSystem.written_of_look h hwritten
  refine ⟨script, es, _, _, hscript, hes, hwrite, toList_serviceDeclaration _ _ _, ?_⟩
  intro a
  exact project.mem_usedArtifacts_analyze

def idleSchema : Schema :=
  ⟨[⟨"Query", .object, none, [⟨"a", .named "Int" true, [], none⟩], [], [], []⟩,
    ⟨"B", .object, none, [⟨"c", .named "Int" true, [], none⟩], [], [], []⟩], ⟨some "Query", none, none⟩⟩

/-- a root with a field and an object type -/
def idleProject : Project := .of ⟨[], []⟩ idleSchema .empty

/-- a matched function, and an object for the type `B` none of whose functions is matched -/
def idleScript : String := "export function a() \x7b\x7d export const B = \x7b h() \x7b\x7d \x7d"

def idleStore : Store := .ofList [(⟨"/a/s/x.ts"⟩, idleScript)]

theorem exists_look (s : Store) (hresult : (Store.system.exec (Run.lookAt Store.system.files
      smallConfig.paths.settings idleProject ⟨"/a/s/x.ts"⟩) s).1.result.toOption =
        some (some ⟨"/a/t/x.d.ts"⟩)) :
    ∃ look after,
      Store.system.exec (Run.lookAt Store.system.files smallConfig.paths.settings idleProject ⟨"/a/s/x.ts"⟩)
        s = (look, after) ∧ look.result = .ok (some ⟨"/a/t/x.d.ts"⟩) := by
  rcases hlook : Store.system.exec (Run.lookAt Store.system.files smallConfig.paths.settings idleProject
      ⟨"/a/s/x.ts"⟩) s with ⟨look, after⟩
  rw [hlook] at hresult
  exact ⟨look, after, rfl, toOption_eq_some_iff.mp hresult⟩

theorem imports_of_look_idle :
    ∃ look after es declaration imports,
      Store.system.exec (Run.lookAt Store.system.files smallConfig.paths.settings idleProject ⟨"/a/s/x.ts"⟩)
        idleStore = (look, after) ∧
      look.result = .ok (some ⟨"/a/t/x.d.ts"⟩) ∧
      Store.system.write idleStore ⟨"/a/t/x.d.ts"⟩ declaration = (.ok (), after) ∧
      declaration.toList = declarationChars smallConfig.paths.settings
        (smallConfig.paths.settings.display ⟨"/a/s/x.ts"⟩).text imports
        ((analyze idleProject es).interfaces idleProject.catalog) ∧
      ∀ a, a ∈ imports ↔
        (∃ i ∈ (analyze idleProject es).interfaces idleProject.catalog, i.Prints a) ∨
          idleProject.HasIdleResolver es a := by
  obtain ⟨look, after, hlook, hwritten⟩ := exists_look idleStore (by decide +kernel)
  obtain ⟨-, es, declaration, imports, -, -, hwrite, htext, himports⟩ :=
    imports_of_look Store.system hlook hwritten
  exact ⟨look, after, es, declaration, imports, hlook, hwritten, hwrite, htext, himports⟩

def idleDeclaration : String :=
  "// Code generated by sdlcodegen. DO NOT EDIT.\n// Service: s/x.ts\n\n" ++
  "import type * as RT from \"./shared-return-types\";\n\n" ++
  "export interface AResolver \x7b\n" ++
  "  (args?: Record<string, never>, context?: unknown): number | null | Promise<number | null>;\n\x7d\n\n" ++
  "export interface BTypeResolvers \x7b\n  h?: (args?: unknown, obj?: unknown) => unknown;\n\x7d\n"

/-- the return types are imported, and no interface prints a name of them -/
theorem import_unused :
    (Store.system.exec (Run.lookAt Store.system.files smallConfig.paths.settings idleProject ⟨"/a/s/x.ts"⟩)
      idleStore).2.get? ⟨"/a/t/x.d.ts"⟩ = some idleDeclaration ∧
    ∀ es, Script.Exports.ofFile ⟨"/a/s/x.ts"⟩ idleScript = .ok es →
      ∀ i ∈ (analyze idleProject es).interfaces idleProject.catalog, ¬i.Prints .returnTypes := by
  have hnone : (Script.Exports.ofFile ⟨"/a/s/x.ts"⟩ idleScript).toOption.map (fun es =>
      ((analyze idleProject es).interfaces idleProject.catalog).all fun i =>
        i.types.all fun t => !t.refersTo .returnTypes) = some true := by decide +kernel
  refine ⟨by decide +kernel, ?_⟩
  intro es hes i hi hprints
  rw [hes] at hnone
  obtain ⟨t, ht, href⟩ := ResolverInterface.prints_iff.mp hprints
  have hall := List.all_eq_true.mp (List.all_eq_true.mp (Option.some.inj hnone) i hi) t ht
  rw [href] at hall
  cases hall

/-! ## names -/

/-- **when interfaces have names of their own**: the interfaces of a declaration that a look writes are named
after the functions that do not tell their types and after the resolver objects.  If no two functions and no
two objects of the service have one name, then the names of the interfaces are distinct just in case no two
of those functions become the same name in Pascal case -/
theorem interfaceNames_of_look {m : Type → Type} [Monad m] {σ : Type} (fs : FileSystem m σ)
    {settings : PathSettings} {project : Project} {path target : Path} {s s' : σ} {look : Run.Look}
    (h : fs.exec (Run.lookAt fs.files settings project path) s = (look, s'))
    (hwritten : look.result = .ok (some target)) :
    ∃ script es interfaces,
      fs.read s path = some script ∧ Script.Exports.ofFile path script = .ok es ∧
      fs.write s target (serviceDeclaration settings (settings.display path).text interfaces) = (.ok (), s') ∧
      interfaces.map ResolverInterface.nameChars =
        es.untyped.map (fun f => ResolverInterface.pascalCase f.name.toList ++ "Resolver".toList) ++
          (es.resolvers project.schema).map (fun o => o.name.toList ++ "TypeResolvers".toList) ∧
      ((es.functions.map (·.name)).Nodup → (es.objects.map (·.name)).Nodup →
        ((interfaces.map ResolverInterface.nameChars).Nodup ↔
          ∀ f ∈ es.untyped, ∀ g ∈ es.untyped, ResolverInterface.pascalCase f.name.toList =
            ResolverInterface.pascalCase g.name.toList → f.name = g.name)) := by
  obtain ⟨script, es, hscript, hes, hwrite⟩ := FileSystem.written_of_look h hwritten
  refine ⟨script, es, _, hscript, hes, hwrite, project.nameChars_interfaces es, ?_⟩
  intro hfunctions hobjects
  exact project.nodup_nameChars_iff hfunctions hobjects

/-- two functions and an object -/
def pairScript : String :=
  "export function a() \x7b\x7d export function b() \x7b\x7d export const B = \x7b h() \x7b\x7d \x7d"

def pairStore : Store := .ofList [(⟨"/a/s/x.ts"⟩, pairScript)]

def pairFunctions : List Script.Function :=
  [⟨"a", [], none, none, false, 1⟩, ⟨"b", [], none, none, false, 1⟩]

theorem interfaceNames_of_look_pair :
    ∃ look after es interfaces,
      Store.system.exec (Run.lookAt Store.system.files smallConfig.paths.settings idleProject ⟨"/a/s/x.ts"⟩)
        pairStore = (look, after) ∧
      look.result = .ok (some ⟨"/a/t/x.d.ts"⟩) ∧
      Script.Exports.ofFile ⟨"/a/s/x.ts"⟩ pairScript = .ok es ∧
      es.functions = pairFunctions ∧ es.objects.map (·.name) = ["B"] ∧
      Store.system.write pairStore ⟨"/a/t/x.d.ts"⟩ (serviceDeclaration smallConfig.paths.settings
        (smallConfig.paths.settings.display ⟨"/a/s/x.ts"⟩).text interfaces) = (.ok (), after) ∧
      (interfaces.map ResolverInterface.nameChars).Nodup := by
  obtain ⟨look, after, hlook, hwritten⟩ := exists_look pairStore (by decide +kernel)
  obtain ⟨script, es, interfaces, hscript, hes, hwrite, -, hnames⟩ :=
    interfaceNames_of_look Store.system hlook hwritten
  have hread : Store.system.read pairStore ⟨"/a/s/x.ts"⟩ = some pairScript := by decide +kernel
  have hexports : (Script.Exports.ofFile ⟨"/a/s/x.ts"⟩ pairScript).toOption.map (fun es =>
      (es.functions, es.objects.map (·.name))) = some (pairFunctions, ["B"]) := by decide +kernel
  obtain rfl : pairScript = script := Option.some.inj (hread.symm.trans hscript)
  rw [hes] at hexports
  obtain ⟨hfunctions, hobjects⟩ := Prod.ext_iff.mp (Option.some.inj hexports)
  dsimp only at hfunctions hobjects
  have hf : (es.functions.map (·.name)).Nodup := by
    rw [hfunctions]
    decide
  have ho : (es.objects.map (·.name)).Nodup := by
    rw [hobjects]
    decide
  refine ⟨look, after, es, interfaces, hlook, hwritten, hes, hfunctions, hobjects, hwrite,
    (hnames hf ho).mpr ?_⟩
  -- the two functions stay apart in Pascal case
  have hpascal : ∀ f ∈ pairFunctions, ∀ g ∈ pairFunctions, ResolverInterface.pascalCase f.name.toList =
      ResolverInterface.pascalCase g.name.toList → f.name = g.name := by decide +kernel
  intro f hmem g hmem'
  have hsub : es.untyped ⊆ pairFunctions := by
    rw [← hfunctions]
    exact List.filter_subset_self _
  exact hpascal f (hsub hmem) g (hsub hmem')

def clashScript : String := "export function a() \x7b\x7d export function A() \x7b\x7d"

def clashStore : Store := .ofList [(⟨"/a/s/x.ts"⟩, clashScript)]

/-- functions `a` and `A` have two interfaces of one name -/
theorem interfaceNames_clash :
    (Store.system.exec (Run.lookAt Store.system.files smallConfig.paths.settings idleProject ⟨"/a/s/x.ts"⟩)
      clashStore).1.result.toOption = some (some ⟨"/a/t/x.d.ts"⟩) ∧
    (Script.Exports.ofFile ⟨"/a/s/x.ts"⟩ clashScript).toOption.map (fun es =>
      (es.functions.map (·.name), es.objects.map (·.name),
        ((analyze idleProject es).interfaces idleProject.catalog).map ResolverInterface.nameChars)) =
      some (["a", "A"], [], ["AResolver".toList, "AResolver".toList]) := by
  constructor <;> decide +kernel

end ResolverTypes
