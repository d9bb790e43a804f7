import FormatConfig.Proofs.CollapsedTexts
import FormatConfig.Proofs.OptionSources
import FormatConfig.Manifest.Resolve

/-!
# Reading configuration after collapsing writes

What a fix run reads besides the files it fixes (rule files, editor settings, manifests)
must read the same after the run, also when the run collapsed one of them. Collapsing
blank lines does not change a JSON5 document, whose strings cannot hold a raw line break;
`FileSystem.CollapseKeepsJson5` states this of the files of a file system, and it carries
over to every system reached by collapsing writes.

Under it, along `FileSystem.CollapsedTo`, a rule file that reads keeps its rules, so a file's
fixups and whether its options resolve are kept; a manifest that reads keeps its selection
and its files.
-/

namespace FormatConfig

namespace FileSystem

variable {fs fs' : FileSystem}

/-- Collapsing the blank lines of a file's text leaves how it reads as JSON5 unchanged, for
every file of the system whose text reads as JSON5. -/
def CollapseKeepsJson5 (fs : FileSystem) : Prop :=
  ∀ loc bytes, (loc, Node.file bytes) ∈ fs.nodes → ∀ t, String.fromUTF8? bytes = some t →
    ∀ doc, Json5.parse (dropByteOrderMark t) = .ok doc →
      Json5.parse (dropByteOrderMark (BlankLines.collapse t)) = .ok doc

theorem NodesCollapsed.exists_of_mem_right {l l' : List (Location × Node)}
    (h : NodesCollapsed l l') {e' : Location × Node} (he' : e' ∈ l') :
    ∃ e ∈ l, e'.1 = e.1 ∧ Node.Collapsed e.2 e'.2 := by
  induction h with
  | nil => cases he'
  | @cons e e'' _ _ he _ ih =>
    rcases List.mem_cons.1 he' with rfl | hmem
    · exact ⟨e, List.mem_cons_self .., he⟩
    · obtain ⟨e₀, hmem₀, hrel⟩ := ih hmem
      exact ⟨e₀, List.mem_cons_of_mem _ hmem₀, hrel⟩

/-- The assumption is kept by collapsing writes: a collapsed text collapses to itself. -/
theorem CollapsedTo.collapseKeepsJson5 (h : fs.CollapsedTo fs') (hj : fs.CollapseKeepsJson5) :
    fs'.CollapseKeepsJson5 := by
  intro loc bytes' hmem t' ht' doc hdoc
  obtain ⟨⟨loc₀, n⟩, hmem₀, hloc, hn⟩ := h.nodes.exists_of_mem_right hmem
  simp only at hloc hn
  subst hloc
  cases hn with
  | same => exact hj _ _ hmem₀ t' ht' doc hdoc
  | text ht =>
    rw [Node.fromUTF8?_toUTF8, Option.some.injEq] at ht'
    subst ht'
    rw [BlankLines.collapse_collapse]
    exact hdoc

/-- A text read from a file is the text of a file stored in the system. -/
theorem mem_nodes_of_readText {p : Path} {t : String} (h : fs.readText p = .ok t) :
    ∃ loc bytes, (loc, Node.file bytes) ∈ fs.nodes ∧ String.fromUTF8? bytes = some t := by
  simp only [FileSystem.readText] at h
  split at h
  · next bytes hbytes =>
    split at h
    · next t' ht' =>
      cases h
      obtain ⟨loc, hres⟩ := resolve_of_readBytes hbytes
      have hloc := nodeAt?_of_resolve hres rfl
      cases loc with
      | nil => cases hloc
      | cons name rest =>
        simp only [FileSystem.nodeAt?, Option.map_eq_some_iff] at hloc
        obtain ⟨e, he, hnode⟩ := hloc
        have heloc : e.1 = name :: rest := by simpa using List.find?_some he
        refine ⟨name :: rest, bytes, ?_, ht'⟩
        rw [← heloc, ← hnode]
        exact List.mem_of_find?_eq_some he
    · cases h
  · cases h

/-- A JSON5 file that reads keeps its document. -/
theorem CollapsedTo.readJson5 (h : fs.CollapsedTo fs') (hj : fs.CollapseKeepsJson5) {p : Path}
    {doc : Json5.Syntax} (hr : fs.readJson5 p = .ok doc) : fs'.readJson5 p = .ok doc := by
  simp only [FileSystem.readJson5] at hr ⊢
  cases ht : fs.readText p with
  | error e => rw [ht] at hr; cases hr
  | ok t =>
    rw [ht] at hr
    dsimp only at hr
    have hparse : Json5.parse (dropByteOrderMark t) = .ok doc := by
      cases hd : Json5.parse (dropByteOrderMark t) with
      | error d => rw [hd] at hr; cases hr
      | ok doc' => rw [hd] at hr; cases hr; rfl
    obtain ⟨t', ht', hrel⟩ := (h.readText p).of_ok ht
    rw [ht']
    dsimp only
    rcases hrel with rfl | rfl
    · rw [hparse]
    · obtain ⟨loc, bytes, hmem, hbytes⟩ := mem_nodes_of_readText ht
      rw [hj loc bytes hmem t hbytes doc hparse]

theorem CollapsedTo.readJsonValue (h : fs.CollapsedTo fs') (hj : fs.CollapseKeepsJson5) {p : Path}
    {v : Json5.JsonValue} (hr : fs.readJsonValue p = .ok v) : fs'.readJsonValue p = .ok v := by
  simp only [FileSystem.readJsonValue, bind, Except.bind] at hr ⊢
  cases hdoc : fs.readJson5 p with
  | error e => rw [hdoc] at hr; cases hr
  | ok doc =>
    rw [hdoc] at hr
    rw [h.readJson5 hj hdoc]
    exact hr

theorem CollapsedTo.ruleFileFor (h : fs.CollapsedTo fs') (file : Path) (baseDir : Option Path) :
    fs'.ruleFileFor file baseDir = fs.ruleFileFor file baseDir := by
  simp [FileSystem.ruleFileFor, FileSystem.findRuleFile, h.searchStart, h.findUpward]

theorem CollapsedTo.editorConfigFor (h : fs.CollapsedTo fs') (file : Path)
    (baseDir : Option Path) :
    fs'.editorConfigFor file baseDir = fs.editorConfigFor file baseDir := by
  simp [FileSystem.editorConfigFor, FileSystem.findEditorConfig, h.searchStart, h.findUpward]

/-- Rules that read are kept. -/
theorem CollapsedTo.lintRules (h : fs.CollapsedTo fs') (hj : fs.CollapseKeepsJson5) {file : Path}
    {baseDir : Option Path} {r : Option Lint.Rules} (hr : fs.lintRules file baseDir = .ok r) :
    fs'.lintRules file baseDir = .ok r := by
  simp only [FileSystem.lintRules, bind, Except.bind, h.ruleFileFor] at hr ⊢
  cases hfor : fs.ruleFileFor file baseDir with
  | error e => rw [hfor] at hr; cases hr
  | ok ruleFile? =>
    rw [hfor] at hr
    dsimp only at hr ⊢
    cases ruleFile? with
    | none => exact hr
    | some ruleFile =>
      dsimp only at hr ⊢
      cases hv : fs.readJsonValue ruleFile with
      | error e => rw [hv] at hr; cases hr
      | ok v =>
        rw [hv] at hr
        rw [h.readJsonValue hj hv]
        exact hr

/-- A file's fixups that succeed are kept. -/
theorem CollapsedTo.postProcessText (h : fs.CollapsedTo fs') (hj : fs.CollapseKeepsJson5)
    {file : Path} {text u : String} {po : ProviderOptions}
    (hp : fs.postProcessText file text po = .ok u) : fs'.postProcessText file text po = .ok u := by
  unfold FileSystem.postProcessText at hp ⊢
  split
  · next hlint =>
    rw [if_pos hlint] at hp
    simp only [FileSystem.lintFixText, bind, Except.bind] at hp ⊢
    cases hr : fs.lintRules file po.baseDir with
    | error e => rw [hr] at hp; cases hp
    | ok r => rw [hr] at hp; rw [h.lintRules hj hr]; exact hp
  · next hlint => rwa [if_neg hlint] at hp

/-! ## Whether options resolve -/

/-- Options resolve exactly when every source that takes part reads; the baseline plays no
part in it. -/
theorem resolveOptions_isOk (fs : FileSystem) (file : Path) (po : ProviderOptions) :
    (fs.resolveOptions file po).isOk =
      ((!po.editorConfig || (fs.editorPartial file po.baseDir).isOk) &&
        (!po.lint || (fs.lintPartial file po.baseDir).isOk)) := by
  rw [resolveOptions_eq_override]
  cases po.editorConfig <;> cases po.lint <;> cases fs.editorPartial file po.baseDir <;>
    cases fs.lintPartial file po.baseDir <;> rfl

theorem editorSettings_isOk (fs : FileSystem) (config : Path) (name : String) :
    (fs.editorSettings config name).isOk = (fs.readText config).isOk := by
  unfold FileSystem.editorSettings
  cases fs.readText config <;> rfl

theorem CollapsedTo.editorPartial_isOk (h : fs.CollapsedTo fs') (file : Path)
    (baseDir : Option Path) :
    (fs'.editorPartial file baseDir).isOk = (fs.editorPartial file baseDir).isOk := by
  simp only [FileSystem.editorPartial, bind, Except.bind, h.editorConfigFor]
  cases fs.editorConfigFor file baseDir with
  | error e => rfl
  | ok config? =>
    cases config? with
    | none => rfl
    | some config =>
      have hs := editorSettings_isOk fs config (file.fileName?.getD "")
      have hs' := editorSettings_isOk fs' config (file.fileName?.getD "")
      rw [(h.readText config).isOk_eq] at hs'
      dsimp only
      revert hs hs'
      cases fs.editorSettings config (file.fileName?.getD "") <;>
        cases fs'.editorSettings config (file.fileName?.getD "") <;>
        simp_all [Except.isOk, Except.toBool, pure, Except.pure]

theorem CollapsedTo.lintPartial_isOk (h : fs.CollapsedTo fs') (hj : fs.CollapseKeepsJson5)
    {file : Path} {baseDir : Option Path} (hok : (fs.lintPartial file baseDir).isOk = true) :
    (fs'.lintPartial file baseDir).isOk = true := by
  simp only [FileSystem.lintPartial, bind, Except.bind] at hok ⊢
  cases hr : fs.lintRules file baseDir with
  | error e => rw [hr] at hok; cases hok
  | ok r => rw [h.lintRules hj hr]; cases r <;> rfl

/-- Options that resolve still resolve, whatever the baseline. -/
theorem CollapsedTo.resolveOptions_isOk (h : fs.CollapsedTo fs') (hj : fs.CollapseKeepsJson5)
    {file : Path} {po : ProviderOptions} (hok : (fs.resolveOptions file po).isOk = true)
    (baseline : FormatOptions) :
    (fs'.resolveOptions file { po with baseline }).isOk = true := by
  rw [FileSystem.resolveOptions_isOk fs] at hok
  rw [FileSystem.resolveOptions_isOk fs']
  simp only [Bool.and_eq_true, Bool.or_eq_true, Bool.not_eq_true'] at hok ⊢
  obtain ⟨hedit, hlint⟩ := hok
  refine ⟨?_, ?_⟩
  · rw [h.editorPartial_isOk]
    exact hedit
  · rcases hlint with hoff | hon
    · exact .inl hoff
    · exact .inr (h.lintPartial_isOk hj hon)

/-! ## Manifests -/

/-- A map over directory entries that looks only at their names and kinds. -/
theorem map_of_kinds {β : Type} {es es' : List (String × Node)}
    (h : es'.map (Prod.map id Node.isDir) = es.map (Prod.map id Node.isDir))
    (g : String → Bool → β) :
    es'.map (fun x => g x.1 x.2.isDir) = es.map (fun x => g x.1 x.2.isDir) := by
  have hmap := congrArg (List.map fun x => g x.1 x.2) h
  simpa [Function.comp_def] using hmap

open Glob in
/-- A glob's stack of paths to look at is built alike: it looks only at what exists and at
directory entries with their kinds. -/
theorem CollapsedTo.fillTodo (h : fs.CollapsedTo fs') (pats : Array Pattern)
    (opts : MatchOptions) (idx : Nat) (path : Path) (isDir : Bool) (todo : List Pending) :
    Glob.fillTodo fs' pats opts idx path isDir todo =
      Glob.fillTodo fs pats opts idx path isDir todo := by
  fun_induction Glob.fillTodo fs pats opts idx path isDir todo with
  | case1 idx path isDir todo hidx pattern s hlit special next hcond hlast =>
    rw [Glob.fillTodo.eq_def fs', dif_pos hidx]
    simp only [pattern, special, next] at hlit hcond ⊢
    simp only [hlit, h.pathExists, h.isDir, hcond, if_true, hlast]
  | case2 idx path isDir todo hidx pattern s hlit special next hcond hlast ih =>
    rw [Glob.fillTodo.eq_def fs', dif_pos hidx]
    simp only [pattern, special, next] at hlit hcond ih ⊢
    simp only [hlit, h.pathExists, h.isDir, hcond, if_true, hlast, if_false, ih]
  | case3 idx path isDir todo hidx pattern s hlit special next hcond =>
    rw [Glob.fillTodo.eq_def fs', dif_pos hidx]
    simp only [pattern, special, next] at hlit hcond ⊢
    simp only [hlit, h.pathExists, h.isDir, hcond, Bool.false_eq_true, if_false]
  | case4 idx path todo hidx pattern hlit children hread pending hdot ih =>
    obtain ⟨children', hread', hkinds⟩ := (h.readDir path).of_ok hread
    have hmap : children'.map (fun x => Pending.mk (childPath path x.1) x.2.isDir (some idx)) =
        children.map (fun x => Pending.mk (childPath path x.1) x.2.isDir (some idx)) :=
      map_of_kinds hkinds fun name d => Pending.mk (childPath path name) d (some idx)
    rw [Glob.fillTodo.eq_def fs', dif_pos hidx]
    simp only [pattern, pending] at hlit hdot ih ⊢
    simp only [hlit, hread', hdot, if_true, h.isDir, ih, hmap]
  | case5 idx path todo hidx pattern hlit children hread pending hdot =>
    obtain ⟨children', hread', hkinds⟩ := (h.readDir path).of_ok hread
    have hmap : children'.map (fun x => Pending.mk (childPath path x.1) x.2.isDir (some idx)) =
        children.map (fun x => Pending.mk (childPath path x.1) x.2.isDir (some idx)) :=
      map_of_kinds hkinds fun name d => Pending.mk (childPath path name) d (some idx)
    rw [Glob.fillTodo.eq_def fs', dif_pos hidx]
    simp only [pattern, pending] at hlit hdot ⊢
    simp only [hlit, hread', hdot, if_true, hmap]
    rfl
  | case6 idx path todo hidx pattern hlit e hread =>
    rw [Glob.fillTodo.eq_def fs', dif_pos hidx]
    simp only [pattern] at hlit ⊢
    simp only [hlit, (h.readDir path).of_error hread, if_true]
  | case7 idx path isDir todo hidx pattern hlit hdir =>
    rw [Glob.fillTodo.eq_def fs', dif_pos hidx]
    simp only [pattern] at hlit ⊢
    simp only [hlit, hdir, Bool.false_eq_true, if_false]
  | case8 idx path isDir todo hidx =>
    rw [Glob.fillTodo.eq_def fs', dif_neg hidx]

open Glob in
theorem CollapsedTo.matchesOf (h : fs.CollapsedTo fs') (pats : Array Pattern)
    (opts : MatchOptions) (requireDir : Bool) (steps : Nat) :
    Glob.matchesOf fs' pats opts requireDir steps = Glob.matchesOf fs pats opts requireDir steps := by
  induction steps with
  | zero => rfl
  | succ steps ih =>
    funext p
    simp only [Glob.matchesOf, Glob.matchStep, h.fillTodo, ih]

theorem CollapsedTo.glob (h : fs.CollapsedTo fs') (pattern : String) (opts : Glob.MatchOptions) :
    fs'.glob pattern opts = fs.glob pattern opts := by
  simp only [FileSystem.glob, h.fillTodo, h.isDir, h.depth, h.matchesOf]

theorem CollapsedTo.expandGlobs (h : fs.CollapsedTo fs') (cwd : Path) (patterns : List String) :
    fs'.expandGlobs cwd patterns = fs.expandGlobs cwd patterns := by
  simp only [FileSystem.expandGlobs, h.glob, h.isFile]

theorem CollapsedTo.absolutePath (h : fs.CollapsedTo fs') (p : Path) :
    fs'.absolutePath p = fs.absolutePath p := by
  simp [FileSystem.absolutePath, h.cwdPath]

/-- A manifest that reads keeps its selection. -/
theorem CollapsedTo.readManifest (h : fs.CollapsedTo fs') (hj : fs.CollapseKeepsJson5)
    {manifest : Path} {r : Path × Manifest.Selection} (hr : fs.readManifest manifest = .ok r) :
    fs'.readManifest manifest = .ok r := by
  simp only [FileSystem.readManifest, bind, Except.bind, h.absolutePath] at hr ⊢
  cases habs : fs.absolutePath manifest with
  | error e => rw [habs] at hr; cases hr
  | ok path =>
    rw [habs] at hr
    dsimp only at hr ⊢
    cases hdoc : fs.readJson5 path with
    | error e => rw [hdoc] at hr; cases hr
    | ok doc => rw [hdoc] at hr; rw [h.readJson5 hj hdoc]; exact hr

/-- A manifest that resolves keeps its files. -/
theorem CollapsedTo.resolveManifest (h : fs.CollapsedTo fs') (hj : fs.CollapseKeepsJson5)
    {manifest : Path} {withMatcher : Bool} {files : List Path}
    (hr : fs.resolveManifest manifest withMatcher = .ok files) :
    fs'.resolveManifest manifest withMatcher = .ok files := by
  simp only [FileSystem.resolveManifest, bind, Except.bind] at hr ⊢
  cases hm : fs.readManifest manifest with
  | error e => rw [hm] at hr; cases hr
  | ok r =>
    rw [hm] at hr
    rw [h.readManifest hj hm]
    simpa only [h.expandGlobs, h.listing, h.length_nodes] using hr

end FileSystem

end FormatConfig
