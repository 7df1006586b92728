import PatternBook.Proofs.CommandLine.Rebase

/-!
# What the options mean

Options name files, and they change the settings.  With a root they also change what a text names:
what does not start with a slash stands below the root.  Here this is said of texts, without the
paths that the program makes of them.

* `CommandLine.Options.below`: what a text names.
* `CommandLine.Options.settingsOf`: the settings of a run, which `Options.apply` gives
  (`apply_eq`).
* `CommandLine.Options.Asks`: whom a run asks.  The program asks them (`asks_onDisk`), and there is
  nobody else (`Options.Asks.unique`).
-/

namespace PatternBook.CommandLine

/-! ### What options say -/

namespace Options

/-- The configuration file. -/
def configFile (o : Options) : Path := .ofText (o.config.getD "sugarcoat.json")

/-- The format of the document. -/
def formatName (o : Options) : Text := o.format.getD "html"

/-- What a text names when it is looked up from the root: it stays if it is absolute. -/
def below (o : Options) (t : Text) : Text :=
  match o.root with
  | none | some [] => t
  | some root =>
    if t.head? = some '/' then t else root ++ Path.separator root ++ t

/-- The destination: that of the options, or else that of the settings, looked up from the root.
The word for writing nothing stays, and so does a destination without a name. -/
def destinationOf (o : Options) (s : Settings) : Option Text :=
  (o.dest.or s.dest).map fun dest : Text =>
    if dest = "none" ∨ dest = [] then dest else o.below dest

/-- The settings with that destination. -/
def settingsOf (o : Options) (s : Settings) : Settings := { s with dest := o.destinationOf s }

end Options

/-- The settings of the file at the path: it can be read, and its text gives them. -/
def Loads (d : Disk) (path : Path) (settings : Settings) : Prop :=
  ∃ text, d.readText path = .ok text ∧ Settings.ofText text = .ok settings

/-- There is a format of that name. -/
def IsFormat (name : Text) : Prop := name = "html" ∨ name = "json"

/-- The text is the document of the library in the format. -/
def Renders (format : Text) (l : Library) (document : Text) : Prop :=
  format = "html" ∧ document = "<!DOCTYPE html>\n" ++ (Page.tree l).print ++ "\n" ∨
    format = "json" ∧ document = (Artifact.ofLibrary l).print ++ "\n"

/-- Whom a run asks: patterns and files are those of the disk, and the document is in the format. -/
structure Options.Asks (o : Options) (d : Disk) (c : Collaborators) : Prop where
  /-- A pattern without wildcards stands for what it names. -/
  literal   : ∀ pattern : Text, (∀ w ∈ pattern, w ∉ ['*', '?', '[']) →
    c.expand pattern = .ok [.ofText (o.below pattern)]
  /-- Any other pattern stands for the files that are found. -/
  wildcard  : ∀ pattern : Text, (∃ w ∈ pattern, w ∈ ['*', '?', '[']) →
    c.expand pattern =
      match Glob.Pattern.ofText (o.below pattern) with
      | .ok p => .ok ((Glob.search d p).filter d.isFile)
      | .error mistake => .error (.failure ⟨pattern, mistake.message⟩)
  read      : ∀ path, c.read path = (d.readText path).mapError .failure
  extension : c.renderer.extension = o.formatName
  render    : ∀ l, ∃ document, c.renderer.render l = .ok document ∧
    Renders o.formatName l document

/-! ### What the program makes of the options -/

section

variable {o : Options} {d : Disk}

/-- A path that is looked up from the root is what the options say that its text names. -/
theorem resolve_rootPath (o : Options) (t : Text) :
    Discovery.resolve o.rootPath t = .ofText (o.below t) := by
  rw [Options.rootPath, Options.below]
  cases hroot : o.root with
  | none => rfl
  | some root =>
      cases root with
      | nil =>
          show Path.join (.ofText []) (.ofText t) = _
          rw [Path.join, if_pos (by simp [Path.ofText, Utf8.encode])]
      | cons b root =>
          show Path.join (.ofText (b :: root)) (.ofText t) = _
          show _ = Path.ofText (if t.head? = some '/' then t else _)
          by_cases habsolute : t.head? = some '/'
          · rw [Path.join_ofText_of_absolute habsolute, if_pos habsolute]
          · rw [Path.join_ofText (List.cons_ne_nil b root) habsolute, if_neg habsolute]

theorem rebase_eq {root : Text} (hroot : o.root = some root) (dest : Text) :
    rebase (.ofText root) dest = if dest = "none" ∨ dest = [] then dest else o.below dest := by
  have hjoin : ((Path.ofText root).join (.ofText dest)).toText = o.below dest := by
    have hresolve := resolve_rootPath o dest
    rw [Options.rootPath, hroot] at hresolve
    exact (congrArg Path.toText hresolve).trans (Path.toText_ofText _)
  by_cases hkept : dest = "none" ∨ dest = []
  · rw [if_pos hkept]
    exact if_pos (hkept.imp_right fun h => .inl (List.isEmpty_iff.2 h))
  · rw [if_neg hkept, ← hjoin]
    -- Joining leaves an absolute destination as it is, so that it need not be an exception.
    by_cases habsolute : dest.head? = some '/'
    · rw [rebase, if_pos (.inr (.inr ((Path.isAbsolute_ofText dest).2 habsolute))),
        Path.join_ofText_of_absolute habsolute, Path.toText_ofText]
    · rw [rebase, if_neg]
      rintro (h | h | h)
      · exact hkept (.inl h)
      · exact hkept (.inr (List.isEmpty_iff.1 h))
      · exact habsolute ((Path.isAbsolute_ofText dest).1 h)

/-- The settings of a run are those that the options say. -/
theorem apply_eq (o : Options) (s : Settings) : o.apply s = o.settingsOf s := by
  rw [Options.apply, Options.settingsOf, Options.destinationOf, Options.rootPath]
  cases hroot : o.root with
  | none =>
      have hsame : (fun dest : Text => if dest = "none" ∨ dest = [] then dest else o.below dest)
          = id := by
        funext dest
        rw [Options.below, hroot]
        exact ite_self dest
      rw [hsame, Option.map_id]
      rfl
  | some root =>
      rw [← funext (rebase_eq hroot)]
      rfl

end

/-! ### Whom the program asks -/

section

variable {o : Options} {d : Disk}

theorem Loads.unique {path : Path} {settings settings' : Settings} (h : Loads d path settings)
    (h' : Loads d path settings') : settings = settings' := by
  obtain ⟨text, hread, hsettings⟩ := h
  obtain ⟨text', hread', hsettings'⟩ := h'
  obtain rfl : text = text' := Except.ok.inj (hread.symm.trans hread')
  exact Except.ok.inj (hsettings.symm.trans hsettings')

theorem loadSettings_eq_ok_iff {path : Path} {settings : Settings} :
    loadSettings d path = .ok settings ↔ Loads d path settings := by
  rw [loadSettings, Loads]
  cases d.readText path with
  | error e => simp
  | ok text => cases h : Settings.ofText text <;> simp [h]

theorem isGlob_eq_true_iff {pattern : Text} :
    Glob.isGlob pattern = true ↔ ∃ w ∈ pattern, w ∈ ['*', '?', '['] := by
  simp [Glob.isGlob, or_assoc]

theorem ofName?_eq_none_iff {format : Text} :
    Renderer.ofName? format = none ↔ ¬ IsFormat format := by
  rw [Renderer.ofName?]
  split
  · next hhtml => exact iff_of_false nofun fun h => h (.inl hhtml)
  · next hhtml =>
    split
    · next hjson => exact iff_of_false nofun fun h => h (.inr hjson)
    · next hjson => exact iff_of_true rfl fun h => h.elim hhtml hjson

theorem renders_of_ofName? {format : Text} {renderer : Renderer}
    (h : Renderer.ofName? format = some renderer) :
    renderer.extension = format ∧
      ∀ l, ∃ document, renderer.render l = .ok document ∧ Renders format l document := by
  rw [Renderer.ofName?] at h
  split at h
  · next hhtml =>
    cases h
    exact ⟨hhtml.symm, fun l => ⟨_, rfl, .inl ⟨hhtml, rfl⟩⟩⟩
  · split at h
    · next hjson =>
      cases h
      exact ⟨hjson.symm, fun l => ⟨_, rfl, .inr ⟨hjson, rfl⟩⟩⟩
    · cases h

/-- The collaborators of the program are those that the options ask. -/
theorem asks_onDisk {renderer : Renderer} (h : Renderer.ofName? o.formatName = some renderer)
    (d : Disk) : o.Asks d (.onDisk d o.rootPath renderer) where
  literal pattern hplain := by
    have hglob : Glob.isGlob pattern = false := by
      rw [Bool.eq_false_iff, ne_eq, isGlob_eq_true_iff]
      rintro ⟨w, hw, hwild⟩
      exact hplain w hw hwild
    show Discovery.globber d o.rootPath pattern = _
    rw [Discovery.globber, Discovery.onDisk, hglob, resolve_rootPath]
    rfl
  wildcard pattern hwild := by
    show Discovery.globber d o.rootPath pattern = _
    rw [Discovery.globber, Discovery.onDisk, isGlob_eq_true_iff.2 hwild, resolve_rootPath,
      Path.toText_ofText]
    cases Glob.Pattern.ofText (o.below pattern) <;> rfl
  read path := by
    unfold Collaborators.onDisk
    dsimp only
    cases d.readText path <;> rfl
  extension := (renders_of_ofName? h).1
  render := (renders_of_ofName? h).2

theorem Renders.unique {format : Text} {l : Library} {document document' : Text}
    (h : Renders format l document) (h' : Renders format l document') : document = document' := by
  rcases h with ⟨rfl, rfl⟩ | ⟨rfl, rfl⟩ <;> rcases h' with ⟨hformat, rfl⟩ | ⟨hformat, rfl⟩
  · rfl
  · exact absurd hformat (by decide)
  · exact absurd hformat (by decide)
  · rfl

/-- The options leave no choice whom to ask. -/
theorem Options.Asks.unique {c c' : Collaborators} (h : o.Asks d c) (h' : o.Asks d c') :
    c = c' := by
  have hexpand : c.expand = c'.expand := by
    funext pattern
    by_cases hwild : ∃ w ∈ pattern, w ∈ ['*', '?', '[']
    · rw [h.wildcard pattern hwild, h'.wildcard pattern hwild]
    · have hplain : ∀ w ∈ pattern, w ∉ ['*', '?', '['] := fun w hw hw' => hwild ⟨w, hw, hw'⟩
      rw [h.literal pattern hplain, h'.literal pattern hplain]
  have hread : c.read = c'.read := funext fun path => (h.read path).trans (h'.read path).symm
  have hrender : c.renderer.render = c'.renderer.render := by
    funext l
    obtain ⟨document, hdocument, hrenders⟩ := h.render l
    obtain ⟨document', hdocument', hrenders'⟩ := h'.render l
    rw [hdocument, hdocument', hrenders.unique hrenders']
  have hextension := h.extension.trans h'.extension.symm
  obtain ⟨expand, read, ⟨extension, render⟩⟩ := c
  obtain ⟨expand', read', ⟨extension', render'⟩⟩ := c'
  cases hexpand
  cases hread
  cases hrender
  cases hextension
  rfl

end

end PatternBook.CommandLine
