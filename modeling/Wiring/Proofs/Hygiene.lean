import Wiring.Proofs.Spelling

/-!
Variables and imports of a generated function share their names' scope. A variable avoids the names
of the packages that were used before it, but a package that is used later is not kept from taking
the name of a variable, nor the name of the errors.
-/

namespace Wiring

/-- A function declares a name: one of its variables, or the errors of its calls. -/
def Go.Function.IsLocal (f : Go.Function) (name : String) : Prop :=
  name ∈ f.locals ∨ name = "err" ∧ ∃ b ∈ f.body, b.provider.fallible = true

/-- No name that is declared hides an import. -/
def Artifact.Hygienic (artifact : Artifact) : Prop :=
  ∀ entry ∈ artifact.imports, ¬ artifact.function.IsLocal entry.qualifier

namespace Graph

/-- The packages that are used when a parameter is named: those of its type and of the types before
it. -/
def pathsAtParam (g : Graph) (position : Nat) : List String :=
  typePaths ((g.params.take (position + 1)).filterMap g.type?)

/-- The packages that are used when a binding is named: those of the signature, and those of the
constructors up to its own. -/
def pathsAtBinding (g : Graph) (made : List Go.Binding) : List String :=
  g.paramPaths ++ g.resultPaths ++ made.map fun b => b.provider.importPath

/-- A variable is named while a package has not been used. -/
inductive NamedBefore (g : Graph) (f : Go.Function) (path : String) : String → Prop where
  | param {before after : List Go.Param} {param : Go.Param}
      (hparams : f.params = before ++ param :: after)
      (hpath : path ∉ g.pathsAtParam before.length) : NamedBefore g f path param.name
  | binding {before after : List Go.Binding} {b : Go.Binding}
      (hbody : f.body = before ++ b :: after)
      (hpath : path ∉ g.pathsAtBinding (before ++ [b])) : NamedBefore g f path b.name

theorem NamedBefore.mem_locals {g : Graph} {f : Go.Function} {path name : String}
    (h : g.NamedBefore f path name) : name ∈ f.locals := by
  cases h with
  | param hparams _ =>
      refine List.mem_append_left _ (List.mem_map.mpr ⟨_, ?_, rfl⟩)
      rw [hparams]
      exact List.mem_append_right _ List.mem_cons_self
  | binding hbody _ =>
      refine List.mem_append_right _ (List.mem_map.mpr ⟨_, ?_, rfl⟩)
      rw [hbody]
      exact List.mem_append_right _ List.mem_cons_self

end Graph

/-- A run of the generator can be evaluated up to what its imports say. -/
theorem Draft.exists_of_map_function {catalog : Catalog} {g : Graph} {draft : Draft}
    {f : Go.Function} {specs : List (String × String)}
    (h : (Draft.function catalog g draft).map (fun made => (made.1, made.2.imports.specs)) =
      .ok (f, specs)) :
    ∃ last, Draft.function catalog g draft = .ok (f, last) ∧ last.imports.specs = specs := by
  cases hrun : Draft.function catalog g draft with
  | error e =>
      rw [hrun] at h
      cases h
  | ok made =>
      rw [hrun] at h
      obtain ⟨hf, hspecs⟩ := Prod.mk.inj (Except.ok.inj h)
      exact ⟨made.2, by rw [← hf], hspecs⟩

namespace Draft.Written

variable {catalog : Catalog} {g : Graph} {draft' signed typed zeroed : Draft} {f : Go.Function}
  {target path qualifier : String}

/-- A parameter avoids the names of the packages that were used before. -/
theorem qualifier_ne_param (h : Written catalog g (.init target) f signed typed zeroed draft')
    {before after : List Go.Param} {param : Go.Param}
    (hparams : f.params = before ++ param :: after) (hpath : path ∈ g.pathsAtParam before.length)
    (hspec : (path, qualifier) ∈ draft'.imports.specs) : qualifier ≠ param.name := by
  have hsteps := h.params
  rw [hparams] at hsteps
  obtain ⟨front, node, back, mid, next, hitems, hlength, hfront, hone, hback⟩ := hsteps.split
  have hused : g.pathsAtParam before.length =
      Graph.typePaths (front.filterMap g.type?) ++ Graph.typePaths (g.type? node).toList := by
    have htake : g.params.take (before.length + 1) = front ++ [node] := by
      rw [hitems, ← hlength, List.take_length_add_append]
      rfl
    rw [Graph.pathsAtParam, htake, List.filterMap_append, Graph.typePaths, List.map_append]
    cases ht : g.type? node <;> simp [Graph.typePaths, ht]
  rw [hused] at hpath
  -- The type is written before the name is chosen, so the name avoids its package as well.
  have hcovers := (hfront.mono fun _ _ _ _ => spells_of_param).spells.1.trans
    (spells_of_param hone).covers
  have hrest := (hback.mono fun _ _ _ _ => spells_of_param).spells.1
  obtain ⟨used, hlater⟩ := h.covers_signed
  exact hcovers.ne_of_used (hrest.trans hlater) (Imports.sound_empty target) hpath hspec
    (gives_of_param hone).unimported

/-- A binding avoids the names of the packages of the signature and of the calls so far. -/
theorem qualifier_ne_binding (h : Written catalog g (.init target) f signed typed zeroed draft')
    {before after : List Go.Binding} {b : Go.Binding} (hbody : f.body = before ++ b :: after)
    (hpath : path ∈ g.pathsAtBinding (before ++ [b]))
    (hspec : (path, qualifier) ∈ draft'.imports.specs) : qualifier ≠ b.name := by
  have hbinds := h.body
  rw [hbody] at hbinds
  obtain ⟨front, t, p, edges, back, mid, next, -, hbefore, hwrites, hafter⟩ := hbinds.split
  have hused : g.pathsAtBinding (before ++ [b]) =
      (g.paramPaths ++ g.resultPaths ++ before.map fun b => b.provider.importPath) ++
        [p.importPath] := by
    rw [Graph.pathsAtBinding, List.map_append, List.map_singleton, hwrites.provider,
      ← List.append_assoc]
  rw [hused] at hpath
  have hadd := Imports.covers_add mid.imports p.importPath p.package
  rw [← hwrites.imports] at hadd
  exact ((h.covers hbefore).trans hadd).ne_of_used hafter.spells.1 (Imports.sound_empty target)
    hpath hspec hwrites.gives.unimported

/-- A variable can only have the name of a package that was used after it was named. -/
theorem namedBefore_of_mem_locals
    (h : Written catalog g (.init target) f signed typed zeroed draft')
    (hspec : (path, qualifier) ∈ draft'.imports.specs) (hlocal : qualifier ∈ f.locals) :
    g.NamedBefore f path qualifier := by
  rcases List.mem_append.mp hlocal with hparam | hbinding
  · obtain ⟨param, hmem, rfl⟩ := List.mem_map.mp hparam
    obtain ⟨before, after, hparams⟩ := List.append_of_mem hmem
    exact .param hparams fun hpath => h.qualifier_ne_param hparams hpath hspec rfl
  · obtain ⟨b, hmem, rfl⟩ := List.mem_map.mp hbinding
    obtain ⟨before, after, hbody⟩ := List.append_of_mem hmem
    exact .binding hbody fun hpath => h.qualifier_ne_binding hbody hpath hspec rfl

end Draft.Written

namespace Registry

variable {registry : Registry} {request : Request} {g : Graph}

/-- Every graph of a request has a file. Its function declares the name of an import exactly where a
package took the name of a variable that was named before the package was used, or the name of the
errors. -/
theorem isLocal_iff_of_load (h : registry.load request = .ok g) (generator : Generator) :
    ∃ artifact after, generator.generate g = .ok (artifact, after) ∧
      ∀ entry ∈ artifact.imports,
        (artifact.function.IsLocal entry.qualifier ↔
          g.NamedBefore artifact.function entry.path entry.qualifier ∨
            entry.qualifier = "err" ∧
              ∃ b ∈ artifact.function.body, b.provider.fallible = true) := by
  obtain ⟨artifact, after, signed, typed, zeroed, last, hgenerate, hwritten, himports⟩ :=
    written_of_load h generator
  refine ⟨artifact, after, hgenerate, fun entry hentry => ?_⟩
  have hspec : (entry.path, entry.qualifier) ∈ last.imports.specs := by
    rw [himports] at hentry
    exact hwritten.sound.linked.mem_specs_iff.mpr (List.mem_map_of_mem hentry)
  constructor
  · rintro (hlocal | herrors)
    · exact Or.inl (hwritten.namedBefore_of_mem_locals hspec hlocal)
    · exact Or.inr herrors
  · rintro (hnamed | herrors)
    · exact Or.inl hnamed.mem_locals
    · exact Or.inr herrors

end Registry

namespace Sample

def connection : TypeRef :=
  ⟨"app/db", "Conn", false⟩

/-- What is built on a connection. Its package has the name of a variable for the connection. -/
def server : TypeRef :=
  ⟨"app/dbConn", "Server", false⟩

def servers : Registry :=
  .ofList
    [{ importPath := "app/db"
       name := none
       types := [⟨"Conn", .struct, []⟩]
       functions := [] },
     { importPath := "app/dbConn"
       name := none
       types := [⟨"Server", .struct, [⟨"Conn", connection⟩]⟩]
       functions := [] }]

def serverRequest : Request where
  name := "Load"
  target := "app/web"
  params := [.param connection]
  results := [.type server]
  aliases := ∅
  hoist := false

def serverLiteral : Provider where
  importPath := "app/dbConn"
  package := "dbConn"
  name := "Server"
  kind := .struct
  inputs := [⟨some "Conn", connection⟩]
  result := server
  fallible := false

def serverGraph : Graph where
  name := "Load"
  target := "app/web"
  hoist := false
  nodes :=
    #[.external connection 0,
      .provider server serverLiteral [⟨0, 0, connection, connection⟩]]
  params := [0]
  outputs := [.value 1 server server]

/-- In the literal `dbConn.Server` the package is meant, but the parameter has its name. -/
def serverFunction : Go.Function where
  name := "Load"
  params := [⟨"dbConn", ⟨false, some "db", "Conn"⟩⟩]
  results := [.value ⟨false, some "dbConn", "Server"⟩]
  skipped := [.zero (.literal ⟨false, some "dbConn", "Server"⟩)]
  body :=
    [⟨1, "dbConnServer", serverLiteral, ⟨some "dbConn", "Server"⟩,
      [⟨some "Conn", .direct, "dbConn"⟩]⟩]
  returned := [.value ⟨.direct, "dbConnServer"⟩]

theorem load_servers : servers.load serverRequest = .ok serverGraph := by
  with_unfolding_all rfl

theorem order_serverGraph : serverGraph.order = [0, 1] := by
  cbv

theorem function_servers : ∃ last,
    Draft.function servers.catalog serverGraph (.init serverGraph.target) =
      .ok (serverFunction, last) ∧
    last.imports.specs = [("app/db", "db"), ("app/dbConn", "dbConn")] := by
  refine Draft.exists_of_map_function ?_
  unfold Draft.function
  rw [order_serverGraph]
  decide +kernel

theorem isLocal_iff_servers : servers.load serverRequest = .ok serverGraph ∧
    ∃ artifact after, (Generator.init servers.catalog).generate serverGraph =
      .ok (artifact, after) ∧ ∀ entry ∈ artifact.imports,
        (artifact.function.IsLocal entry.qualifier ↔
          serverGraph.NamedBefore artifact.function entry.path entry.qualifier ∨
            entry.qualifier = "err" ∧
              ∃ b ∈ artifact.function.body, b.provider.fallible = true) :=
  ⟨load_servers, Registry.isLocal_iff_of_load load_servers (.init servers.catalog)⟩

/-- A package that is used late hides behind a parameter, though no package declares a name. -/
theorem not_hygienic_servers : servers.load serverRequest = .ok serverGraph ∧
    (∀ package ∈ servers.toList, package.name = none) ∧
    ∃ artifact after, (Generator.init servers.catalog).generate serverGraph =
      .ok (artifact, after) ∧ ¬ artifact.Hygienic := by
  obtain ⟨last, hfunction, hspecs⟩ := function_servers
  refine ⟨load_servers, by decide +kernel, _, _,
    Except.bind_eq_ok_iff.mpr ⟨_, hfunction, rfl⟩, fun hhygienic => ?_⟩
  have hspec : ("app/dbConn", "dbConn") ∈ last.imports.specs := by
    rw [hspecs]
    decide
  have hlocal : "dbConn" ∈ serverFunction.locals := by decide
  obtain ⟨signed, typed, zeroed, hwritten⟩ := Draft.exists_written hfunction
  obtain ⟨entry, hlisted, hentry⟩ :=
    List.mem_map.mp (hwritten.sound.linked.mem_specs_iff.mp hspec)
  have hqualifier : entry.qualifier = "dbConn" := congrArg Prod.snd hentry
  exact hhygienic entry hlisted (Or.inl (hqualifier ▸ hlocal))

end Sample

end Wiring
