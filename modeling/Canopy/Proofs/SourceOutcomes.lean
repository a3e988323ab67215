import Canopy.Proofs.Flatten
import Canopy.Proofs.Readiness
import Canopy.Proofs.Utf8
import Mathlib.Data.Nat.Find

namespace Canopy

namespace Tree

/-- A node without a type that has no other such node before it in pre-order. -/
structure FirstUntyped (t : Tree) (q : Address) (s : Place) : Prop where
  at_eq : t.top.at? q = some s
  untyped : s.type = ""
  first : ∀ q' s', t.top.at? q' = some s' → s'.type = "" →
    t.addresses.idxOf q ≤ t.addresses.idxOf q'

/-- Every node of the tree has a type. -/
def Typed (t : Tree) : Prop := ∀ q s, t.top.at? q = some s → s.type ≠ ""

theorem exists_firstUntyped {t : Tree} (h : ¬ t.Typed) : ∃ q s, t.FirstUntyped q s := by
  classical
  have hsome : ∃ k, ∃ q s, t.top.at? q = some s ∧ s.type = "" ∧ t.addresses.idxOf q = k := by
    unfold Typed at h
    push Not at h
    obtain ⟨q, s, hat, htype⟩ := h
    exact ⟨_, q, s, hat, htype, rfl⟩
  obtain ⟨q, s, hat, htype, hk⟩ := Nat.find_spec hsome
  refine ⟨q, s, hat, htype, ?_⟩
  intro q' s' hat' htype'
  rw [hk]
  exact Nat.find_min' hsome ⟨q', s', hat', htype', rfl⟩

/-- Nodes that come before the first one without a type have one. -/
theorem FirstUntyped.type_ne_of_lt {t : Tree} {q q' : Address} {s s' : Place}
    (h : t.FirstUntyped q s) (hs' : t.top.at? q' = some s') (hlt : t.rank q' < t.rank q) :
    s'.type ≠ "" := by
  intro htype
  have hle := h.first q' s' hs' htype
  have hq : t.addresses.idxOf q = t.rank q := idxOf_addresses (p := t.top) h.at_eq
  have hq' : t.addresses.idxOf q' = t.rank q' := idxOf_addresses (p := t.top) hs'
  omega

end Tree

/-- Over a usable grammar, the parser alone decides what comes of a parse. -/
theorem Provider.result_parse_of_held {p : Provider} {g : Grammar} (hheld : p.held = some g)
    (hg : g.Usable p.window) (answer : LoadAnswer) (found : Option Parse) (length : Nat) :
    (p.parse answer found length).result =
      match g.parseFailure, found with
      | some text, _ => .error (.parse (.failed p.language text))
      | none, none => .error (.parse (.noTree p.language))
      | none, some parse => .ok parse := by
  simp only [parse, createParser_of_held hheld hg answer]
  cases g.parseFailure with
  | some text => rfl
  | none => cases found <;> rfl

namespace Ast
open Canopy.Tree

/-- What is wrong with the node made for a raw node without a type. A type that is passed through
leaves the semantic type empty as well. -/
def untypedIssues (l : Profile) (s : Place) : List Issue :=
  (if l.semanticType s = "" then [Issue.ofField "semantic_type" .emptyText] else []) ++
    [Issue.ofField "raw_type" .emptyText]

section Build

variable (l : Profile) (options : BuildOptions) (source : Bytes) {t : Tree}

theorem issues_nodeAt_untyped {q : Address} {s : Place} (h : s.type = "") :
    (nodeAt l options source t q s).issues = untypedIssues l s := by
  have hraw : (nodeAt l options source t q s).rawType = "" := h
  have hsemantic : (nodeAt l options source t q s).semanticType = l.semanticType s := rfl
  rw [Node.issues, hraw, hsemantic, if_pos rfl, untypedIssues]

/-- The check of the nodes stops at the first one without a type. -/
theorem firstIssues_of_firstUntyped {q : Address} {s : Place} (h : t.FirstUntyped q s) :
    firstIssues (flatten l options source t) = some (untypedIssues l s) := by
  have hnode := flatten_getElem?_rank l options source h.at_eq
  obtain ⟨hlt, hget⟩ := List.getElem?_eq_some_iff.mp hnode
  have hissues := issues_nodeAt_untyped l options source (t := t) (q := q) h.untyped
  have hfind : (flatten l options source t).find? (fun n => !n.issues.isEmpty) =
      some (nodeAt l options source t q s) := by
    rw [List.find?_eq_some_iff_getElem]
    refine ⟨by simp [hissues, untypedIssues], t.rank q, hlt, hget, ?_⟩
    intro j hj
    obtain ⟨q', s', hs', hrank, hn⟩ := (flatten_getElem?_eq_some l options source).mp
      (List.getElem?_eq_getElem (Nat.lt_trans hj hlt))
    have htype : s'.type ≠ "" := h.type_ne_of_lt hs' (by rw [hrank]; exact hj)
    rw [hn, (issues_nodeAt l options source).mpr htype]
    rfl
  rw [firstIssues, hfind, Option.map_some, hissues]

theorem result_build (world : World) (a : Adapter) : (build world options source a).result =
    match (a.provider.parse (world.load a.provider.grammar) world.found source.length).result with
    | .error fault => .error (.ofFault fault)
    | .ok parse =>
      match firstIssues (flatten a.profile options source parse.tree) with
      | some issues => .error (.invalid issues)
      | none =>
        .ok ⟨a.name, source.length, parse.hasError,
          flatten a.profile options source parse.tree⟩ := by
  cases hparse : (a.provider.parse (world.load a.provider.grammar) world.found
    source.length).result with
  | error fault => simp [build, hparse]
  | ok parse =>
    cases hissues : firstIssues (flatten a.profile options source parse.tree) with
    | some issues => simp [build, hparse, hissues]
    | none => simp [build, hparse, hissues]

end Build

/-- A result that leaves nothing out: one node for each raw node, in pre-order. -/
structure Complete (a : Adapter) (source : Bytes) (parse : Parse) (ast : Ast) : Prop where
  language_eq : ast.language = a.name
  sourceLength_eq : ast.sourceLength = source.length
  textLength_eq : ∀ text, source = Utf8.encode text → ast.sourceLength = text.utf8ByteSize
  hasErrors_eq : ast.hasErrors = parse.hasError
  length_eq : ast.nodes.length = parse.tree.addresses.length
  describes : ∀ k q, parse.tree.addresses[k]? = some q →
    ∃ s n, parse.tree.top.at? q = some s ∧ ast.nodes[k]? = some n ∧ Describes parse.tree k q s n

theorem complete_flatten (a : Adapter) (options : BuildOptions) (source : Bytes) (parse : Parse) :
    Complete a source parse
      ⟨a.name, source.length, parse.hasError, flatten a.profile options source parse.tree⟩ where
  language_eq := rfl
  sourceLength_eq := rfl
  textLength_eq text h := by
    change source.length = _
    rw [h, Utf8.length_encode]
  hasErrors_eq := rfl
  length_eq := by rw [length_flatten, length_addresses]
  describes k q hq := by
    obtain ⟨s, hs, hk⟩ := exists_of_addresses_getElem? (p := parse.tree.top) hq
    obtain rfl : parse.tree.rank q = k := hk
    exact ⟨s, _, hs, flatten_getElem?_rank a.profile options source hs,
      describes_nodeAt a.profile options source hs⟩

end Ast

namespace Registry
open Ast

/-- The tag has an adapter, and the parser over its grammar gives a tree. -/
structure Gives (r : Registry) (world : World) (tag : String) (a : Adapter) (parse : Parse) :
    Prop where
  resolved : r.resolve? tag = some a
  grammar : ∃ g, a.provider.held = some g ∧ g.parseFailure = none
  found : world.found = some parse

/-- The tag has an adapter, but the parser over its grammar breaks off or gives no tree. -/
structure GivesNone (r : Registry) (world : World) (tag : String) (a : Adapter) : Prop where
  resolved : r.resolve? tag = some a
  grammar : ∃ g, a.provider.held = some g ∧
    ((∃ text, g.parseFailure = some text) ∨ world.found = none)

/-- How a build by tag ends: the registry, the parser and the tree decide, in this order. -/
inductive Ends (world : World) (options : BuildOptions) (source : Bytes) (tag : String)
    (r : Registry) : Except Error Ast → Prop where
  | unsupported (resolved : r.resolve? tag = none) :
    Ends world options source tag r (.error (.unsupported ⟨tag, r.languages⟩))
  | failed {a : Adapter} {g : Grammar} {text : String} (resolved : r.resolve? tag = some a)
    (held : a.provider.held = some g) (failure : g.parseFailure = some text) :
    Ends world options source tag r (.error (.parse (.failed a.provider.language text)))
  | noTree {a : Adapter} {g : Grammar} (resolved : r.resolve? tag = some a)
    (held : a.provider.held = some g) (failure : g.parseFailure = none)
    (found : world.found = none) :
    Ends world options source tag r (.error (.parse (.noTree a.provider.language)))
  | invalid {a : Adapter} {parse : Parse} {q : Address} {s : Place}
    (gives : r.Gives world tag a parse) (first : parse.tree.FirstUntyped q s) :
    Ends world options source tag r (.error (.invalid (untypedIssues a.profile s)))
  | built {a : Adapter} {parse : Parse} (gives : r.Gives world tag a parse)
    (typed : parse.tree.Typed) :
    Ends world options source tag r (.ok ⟨a.name, source.length, parse.hasError,
      flatten a.profile options source parse.tree⟩)

theorem Consistent.resolve?_eq_none {r : Registry} (hr : Consistent r) {tag : String} :
    r.resolve? tag = none ↔ tag ∉ r.languages ∧ tag ∉ r.sortedAliases.keys := by
  have hknown := hr.lookupsAgree.resolve?_iff tag
  rw [← not_or, ← hknown, Option.eq_none_iff_forall_ne_some, not_exists]

/-- The names are listed in their order, each once. -/
theorem Consistent.languages_pairwise {r : Registry} (hr : Consistent r) :
    r.languages.Pairwise (· < ·) := by
  have hnodup : r.languages.Nodup := (List.mergeSort_perm _ _).nodup_iff.mpr hr.adapter_keys
  refine (sortTexts_pairwise r.adapters.keys).imp₂ ?_ hnodup
  intro s t hle hne
  apply String.not_le.mp
  intro hge
  exact hne (String.le_antisymm hle hge)

variable (world : World) (options : BuildOptions) (source : Bytes) (tag : String) {r : Registry}

theorem result_parseSource_of_held {a : Adapter} {g : Grammar} (hresolve : r.resolve? tag = some a)
    (ready : a.provider.Ready) (hheld : a.provider.held = some g) :
    (parseSource world options source tag r).result =
      match g.parseFailure, world.found with
      | some text, _ => .error (.parse (.failed a.provider.language text))
      | none, none => .error (.parse (.noTree a.provider.language))
      | none, some parse =>
        match firstIssues (flatten a.profile options source parse.tree) with
        | some issues => .error (.invalid issues)
        | none =>
          .ok ⟨a.name, source.length, parse.hasError,
            flatten a.profile options source parse.tree⟩ := by
  obtain ⟨g', hheld', hg⟩ := ready
  obtain rfl : g = g' := Option.some.inj (hheld.symm.trans hheld')
  have hbuild : (parseSource world options source tag r).result =
      (build world options source a).result := by
    unfold parseSource
    rw [require_eq_ok.mpr hresolve]
  rw [hbuild, result_build, Provider.result_parse_of_held hheld hg]
  cases g.parseFailure with
  | some text => rfl
  | none => cases world.found <;> rfl

section Exact

variable (hr : Consistent r) (hready : AllReady r)
include hr hready

/-- In a registry whose adapters are ready, a build by tag ends in one of five ways. -/
theorem parseSource_eq_iff {x : Except Error Ast} :
    (parseSource world options source tag r).result = x ↔ Ends world options source tag r x := by
  have hprovider : ∀ {a}, r.resolve? tag = some a → a.provider.Ready :=
    fun h => hready _ _ (hr.get?_of_resolve? h)
  constructor
  · rintro rfl
    cases hresolve : r.resolve? tag with
    | none =>
      have hresult : (parseSource world options source tag r).result =
          .error (.unsupported ⟨tag, r.languages⟩) := by simp [parseSource, require, hresolve]
      rw [hresult]
      exact .unsupported hresolve
    | some a =>
      obtain ⟨g, hheld, -⟩ := hprovider hresolve
      rw [result_parseSource_of_held world options source tag hresolve (hprovider hresolve) hheld]
      cases hfailure : g.parseFailure with
      | some text => exact .failed hresolve hheld hfailure
      | none =>
        cases hfound : world.found with
        | none => exact .noTree hresolve hheld hfailure hfound
        | some parse =>
          have hgives : r.Gives world tag a parse := ⟨hresolve, ⟨g, hheld, hfailure⟩, hfound⟩
          dsimp only
          by_cases htyped : parse.tree.Typed
          · rw [(firstIssues_flatten a.profile options source).mpr htyped]
            exact .built hgives htyped
          · obtain ⟨q, s, hfirst⟩ := Tree.exists_firstUntyped htyped
            rw [firstIssues_of_firstUntyped a.profile options source hfirst]
            exact .invalid hgives hfirst
  · intro h
    cases h with
    | unsupported hresolve => simp [parseSource, require, hresolve]
    | failed hresolve hheld hfailure =>
      rw [result_parseSource_of_held world options source tag hresolve (hprovider hresolve) hheld,
        hfailure]
    | noTree hresolve hheld hfailure hfound =>
      rw [result_parseSource_of_held world options source tag hresolve (hprovider hresolve) hheld,
        hfailure, hfound]
    | invalid hgives hfirst =>
      obtain ⟨hresolve, ⟨g, hheld, hfailure⟩, hfound⟩ := hgives
      rw [result_parseSource_of_held world options source tag hresolve (hprovider hresolve) hheld,
        hfailure, hfound]
      simp only [firstIssues_of_firstUntyped _ options source hfirst]
    | built hgives htyped =>
      obtain ⟨hresolve, ⟨g, hheld, hfailure⟩, hfound⟩ := hgives
      rw [result_parseSource_of_held world options source tag hresolve (hprovider hresolve) hheld,
        hfailure, hfound]
      simp only [(firstIssues_flatten _ options source).mpr htyped]

theorem parseSource_eq_unsupported {u : Unsupported} :
    (parseSource world options source tag r).result = .error (.unsupported u) ↔
      (tag ∉ r.languages ∧ tag ∉ r.sortedAliases.keys) ∧ u = ⟨tag, r.languages⟩ := by
  rw [parseSource_eq_iff world options source tag hr hready, ← hr.resolve?_eq_none]
  constructor
  · intro h
    cases h with
    | unsupported hresolve => exact ⟨hresolve, rfl⟩
  · rintro ⟨hresolve, rfl⟩
    exact .unsupported hresolve

theorem parseSource_eq_parse :
    (∃ fault, (parseSource world options source tag r).result = .error (.parse fault)) ↔
      ∃ a, r.GivesNone world tag a := by
  simp only [parseSource_eq_iff world options source tag hr hready]
  constructor
  · rintro ⟨fault, h⟩
    cases h with
    | failed hresolve hheld hfailure => exact ⟨_, hresolve, _, hheld, .inl ⟨_, hfailure⟩⟩
    | noTree hresolve hheld hfailure hfound => exact ⟨_, hresolve, _, hheld, .inr hfound⟩
  · rintro ⟨a, hresolve, g, hheld, hnone⟩
    cases hfailure : g.parseFailure with
    | some text => exact ⟨_, .failed hresolve hheld hfailure⟩
    | none =>
      -- the parser does not break off, so it gives no tree
      have hfound : world.found = none := by simpa [hfailure] using hnone
      exact ⟨_, .noTree hresolve hheld hfailure hfound⟩

theorem parseSource_eq_invalid {issues : List Issue} :
    (parseSource world options source tag r).result = .error (.invalid issues) ↔
      ∃ a parse q s, r.Gives world tag a parse ∧ parse.tree.FirstUntyped q s ∧
        issues = untypedIssues a.profile s := by
  rw [parseSource_eq_iff world options source tag hr hready]
  constructor
  · intro h
    cases h with
    | invalid hgives hfirst => exact ⟨_, _, _, _, hgives, hfirst, rfl⟩
  · rintro ⟨a, parse, q, s, hgives, hfirst, rfl⟩
    exact .invalid hgives hfirst

theorem parseSource_eq_ok {ast : Ast} :
    (parseSource world options source tag r).result = .ok ast ↔
      ∃ a parse, r.Gives world tag a parse ∧ parse.tree.Typed ∧
        ast = ⟨a.name, source.length, parse.hasError,
          flatten a.profile options source parse.tree⟩ := by
  rw [parseSource_eq_iff world options source tag hr hready]
  constructor
  · intro h
    cases h with
    | built hgives htyped => exact ⟨_, _, hgives, htyped, rfl⟩
  · rintro ⟨a, parse, hgives, htyped, rfl⟩
    exact .built hgives htyped

end Exact

/-- Which of its ends a build by tag comes to in a registry, and what it gives there. -/
structure Exact (world : World) (options : BuildOptions) (source : Bytes) (tag : String)
    (r : Registry) : Prop where
  registry_eq : (parseSource world options source tag r).registry = r
  /-- There is no such tag, and the error lists the names. -/
  unsupported_iff : ∀ u,
    (parseSource world options source tag r).result = .error (.unsupported u) ↔
      (tag ∉ r.languages ∧ tag ∉ r.sortedAliases.keys) ∧ u = ⟨tag, r.languages⟩
  languages_pairwise : r.languages.Pairwise (· < ·)
  mem_languages_iff : ∀ n, n ∈ r.languages ↔ ∃ a, r.adapters.get? n = some a
  parse_iff : (∃ fault, (parseSource world options source tag r).result = .error (.parse fault)) ↔
    ∃ a, r.GivesNone world tag a
  /-- The error is that of the first node without a type. -/
  invalid_iff : ∀ issues,
    (parseSource world options source tag r).result = .error (.invalid issues) ↔
      ∃ a parse q s, r.Gives world tag a parse ∧ parse.tree.FirstUntyped q s ∧
        issues = untypedIssues a.profile s
  exists_invalid_iff :
    (∃ issues, (parseSource world options source tag r).result = .error (.invalid issues)) ↔
      ∃ a parse, r.Gives world tag a parse ∧ ∃ q s, parse.tree.top.at? q = some s ∧ s.type = ""
  ok_iff : (∃ ast, (parseSource world options source tag r).result = .ok ast) ↔
    ∃ a parse, r.Gives world tag a parse ∧ ∀ q s, parse.tree.top.at? q = some s → s.type ≠ ""
  complete : ∀ ast, (parseSource world options source tag r).result = .ok ast →
    ∃ a parse, r.Gives world tag a parse ∧ Complete a source parse ast
  ne_grammar : ∀ fault, (parseSource world options source tag r).result ≠ .error (.grammar fault)

theorem exact_of_allReady (hr : Consistent r) (hready : AllReady r) :
    Exact world options source tag r where
  registry_eq := (parseSource_of_allReady hr hready world options source tag).2.1
  unsupported_iff _ := parseSource_eq_unsupported world options source tag hr hready
  languages_pairwise := hr.languages_pairwise
  mem_languages_iff _ := mem_languages
  parse_iff := parseSource_eq_parse world options source tag hr hready
  invalid_iff _ := parseSource_eq_invalid world options source tag hr hready
  exists_invalid_iff := by
    simp only [parseSource_eq_invalid world options source tag hr hready]
    constructor
    · rintro ⟨issues, a, parse, q, s, hgives, hfirst, -⟩
      exact ⟨a, parse, hgives, q, s, hfirst.at_eq, hfirst.untyped⟩
    · rintro ⟨a, parse, hgives, q, s, hat, htype⟩
      have huntyped : ¬ parse.tree.Typed := fun htyped => htyped q s hat htype
      obtain ⟨q₀, s₀, hfirst⟩ := Tree.exists_firstUntyped huntyped
      exact ⟨_, a, parse, q₀, s₀, hgives, hfirst, rfl⟩
  ok_iff := by
    simp only [parseSource_eq_ok world options source tag hr hready]
    constructor
    · rintro ⟨ast, a, parse, hgives, htyped, -⟩
      exact ⟨a, parse, hgives, htyped⟩
    · rintro ⟨a, parse, hgives, htyped⟩
      exact ⟨_, a, parse, hgives, htyped, rfl⟩
  complete ast h := by
    obtain ⟨a, parse, hgives, -, rfl⟩ :=
      (parseSource_eq_ok world options source tag hr hready).mp h
    exact ⟨a, parse, hgives, complete_flatten a options source parse⟩
  ne_grammar := (parseSource_of_allReady hr hready world options source tag).1

/-- After every run, the tag, the parser and the tree decide how a build ends, and it leaves the
registry as it is. -/
theorem run_parseSource_exact (ops : List Operation) (world : World) (options : BuildOptions)
    (source : Bytes) (tag : String) : Exact world options source tag (run ops) :=
  exact_of_allReady world options source tag (consistent_run ops) (allReady_run ops)

/-- Python is registered, with its bundled grammar. -/
def pythonRegistered : List Operation := [.register Pack.bundled.loader (.ofLanguage .python)]

theorem run_parseSource_exact_assignment :
    ∃ ast, (parseSource assignmentWorld {} [120, 61, 49] "py" (run pythonRegistered)).result =
        .ok ast ∧
      ast.language = "python" ∧ ast.sourceLength = 3 ∧ ast.nodes.length = 6 := by
  have hexact := run_parseSource_exact pythonRegistered assignmentWorld {} [120, 61, 49] "py"
  have hshape : ((run pythonRegistered).resolve? "py").map (fun a =>
      (a.name, a.provider.held.map Grammar.parseFailure)) = some ("python", some none) := by
    decide +kernel
  obtain ⟨a, hresolve, ha⟩ := Option.map_eq_some_iff.mp hshape
  obtain ⟨hname, hheld⟩ := Prod.mk.inj ha
  have hgives : (run pythonRegistered).Gives assignmentWorld "py" a ⟨assignmentTree, false⟩ :=
    ⟨hresolve, Option.map_eq_some_iff.mp hheld, rfl⟩
  obtain ⟨ast, hast⟩ := hexact.ok_iff.mpr ⟨a, _, hgives, assignmentTree_types⟩
  obtain ⟨b, parse, hgives', hwhole⟩ := hexact.complete ast hast
  obtain rfl : a = b := Option.some.inj (hresolve.symm.trans hgives'.resolved)
  obtain rfl : parse = ⟨assignmentTree, false⟩ := Option.some.inj hgives'.found.symm
  exact ⟨ast, hast, hwhole.language_eq.trans hname, hwhole.sourceLength_eq,
    hwhole.length_eq.trans (by decide)⟩

end Registry
end Canopy
