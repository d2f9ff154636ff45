import RasterAlgebra.CommandLine
import RasterAlgebra.Proofs.Evaluation.Dependence
import RasterAlgebra.Proofs.Evaluation.Requests
import RasterAlgebra.Proofs.FileSource.Layouts
import RasterAlgebra.Proofs.FileSource.Paths
import RasterAlgebra.Proofs.Formula.Rendering

/-!
# Formulas do not leave the directory of the bands

Whatever a text is, it can only ask for bands that are words in it, and a word is the name of a file: it has
neither a slash nor anything else that leads to another directory.

* `bandsOfList_statements`: the bands of what is read are identifiers of the text, also if the text has faults.
* `ofText_fileName`: the name of a file is the path of one name.
* `Template.fill_band`: the template that only adds an ending.
* `FileSource.run_congr_files`: a run depends on the files only through the paths of the bands that it asks for.

`run_stays_inside` puts these together.
-/

namespace RasterAlgebra

open Token (IsLetter IsDigit Lexeme)

/-! ## Names of bands -/

/-- The bands of the statements that are read are identifiers, in order. -/
theorem bandsOfList_statements (b : Parser.Bounds) (ts : List Token) :
    (Node.bandsOfList (Parser.statements b ts).1).Sublist (Token.identifiers ts) := by
  have hmono {us vs : List Token} (h : us <:+ vs) : (Token.identifiers us).Sublist (Token.identifiers vs) :=
    h.sublist.filterMap _
  induction ts using Parser.statements_induction (b := b) with
  | nil =>
    rw [Parser.statements_nil]
    exact List.nil_sublist _
  | ok ts n rest hread ih =>
    rw [Parser.statements_of_ok hread]
    obtain ⟨d, us, rfl, rfl, -, -, rfl⟩ := Parser.exists_derivation_of_statement hread
    rw [Grammar.identifiers_append, ← Grammar.bands_node]
    exact (ih.trans (hmono (Parser.skipSemicolon_suffix us))).append_left _
  | error ts f rest hne hread ih =>
    rw [Parser.statements_of_error hne hread]
    -- what is left out cannot add a name
    have htail := (Parser.statement_tail b ts).1
    rw [hread] at htail
    exact ih.trans (hmono ((Parser.resume_suffix rest).trans htail))

/-- The words of a text that are not reserved. -/
def namesOf (formula : String) : List String := Token.identifiers (Cursor.start formula).lexemes

theorem mem_namesOf {formula name : String} :
    name ∈ namesOf formula ↔ ∃ t ∈ (Cursor.start formula).lexemes, t.kind = .ident ∧ t.text = name := by
  simp only [namesOf, Token.identifiers, Token.identifier?, List.mem_filterMap, Option.ite_none_right_eq_some,
    Option.some.injEq]

/-- A word of a text has the shape of a word. -/
theorem lexeme_of_mem_namesOf {formula name : String} (h : name ∈ namesOf formula) :
    Lexeme .ident name.toList := by
  obtain ⟨t, ht, hkind, rfl⟩ := mem_namesOf.mp h
  have hwritten := written_of_mem_tokens formula t (List.mem_append_left _ ht)
  have hlexeme := lexeme_of_written hwritten (by rw [hkind]; decide)
  rwa [hkind] at hlexeme

theorem bands_parse_subset (formula : String) : (parse formula).program.bands ⊆ namesOf formula := by
  unfold Parse.program Node.bands
  exact (bandsOfList_statements _ _).subset

/-- A run asks for words of its text only. -/
theorem requests_subset [Host] (env : Environment) (formula : String) (memo : Memo) :
    (env.run formula memo).requests ⊆ namesOf formula := by
  by_cases hread : (parse formula).faults = []
  · rw [run_eq_walkProgram hread]
    obtain ⟨bands, hbands, hrequests⟩ :=
      exists_walkProgram_requests_eq env (isStatement_of_mem_parse formula) (rfl : Value.null.isError = false)
    intro band hband
    rw [hrequests, List.mem_eraseDups] at hband
    exact (bandsOfList_statements _ _).subset (hbands.subset hband)
  · rw [run_of_faults hread]
    exact List.nil_subset _

/-! ## Paths of names -/

/-- The name of a file: the band with an ending. -/
def fileName (band : String) : String := band ++ ".npy"

theorem toList_fileName (band : String) : (fileName band).toList = band.toList ++ ['.', 'n', 'p', 'y'] :=
  String.toList_append

/-- A band's file has no slash in its name. -/
theorem slash_not_mem_fileName {band : String} (h : Lexeme .ident band.toList) :
    '/' ∉ (fileName band).toList := by
  have hband : ∀ c ∈ band.toList, IsLetter c ∨ IsDigit c := by
    generalize band.toList = word at h
    cases h with
    | ident hc hcs => exact List.forall_mem_cons.mpr ⟨.inl hc, hcs⟩
    | symbol h => simp [Token.symbols] at h
  rw [toList_fileName]
  intro hslash
  rcases List.mem_append.mp hslash with hslash | hslash
  · exact absurd (hband _ hslash) (by decide)
  · exact absurd hslash (by decide)

theorem ofText_fileName {band : String} (h : Lexeme .ident band.toList) :
    Path.ofText (fileName band) = ⟨"", [fileName band]⟩ := by
  refine Path.ofText_of_name (slash_not_mem_fileName h) ?_ ?_
  · rw [toList_fileName]
    simp
  · rw [toList_fileName]
    intro hdot
    have := congrArg List.length hdot
    simp at this

/-! ## Templates that add an ending -/

namespace Template

theorem pieces_band : pieces "\x7bband\x7d.npy".toList =
    [.field ⟨"band".toList, none, [], false⟩, .text '.', .text 'n', .text 'p', .text 'y'] := by
  decide +kernel

/-- The field that asks for nothing but the band. -/
theorem fieldThing_band (attributes : Attributes) (band : List Char) :
    fieldThing attributes "band".toList band = .ok (.ofText band) := by
  have hname : "band".toList.takeWhile (fun c => c != '.' && c != '[') = "band".toList := by decide
  have hrest : "band".toList.dropWhile (fun c => c != '.' && c != '[') = [] := by decide
  have hindex : wholeIndex "band".toList = .ok none := by rfl
  have hempty : "band".toList.isEmpty = false := by decide
  unfold fieldThing
  simp only [hname, hrest, hindex, hempty, bind, Except.bind, follow, Bool.false_eq_true, ↓reduceIte]

/-- Whatever attributes texts have, this template asks for none. -/
theorem fill_band (attributes : Attributes) (band : String) :
    fill attributes "\x7bband\x7d.npy" band = .ok (fileName band) := by
  have hfield (expand : List Char → Except Fault (List Char)) :
      pieceText attributes band.toList expand (.field ⟨"band".toList, none, [], false⟩) = .ok band.toList := by
    unfold pieceText
    simp only [fieldThing_band]
    rfl
  have htext (expand : List Char → Except Fault (List Char)) (c : Char) :
      pieceText attributes band.toList expand (.text c) = .ok [c] := rfl
  have hfilled : fillWithin attributes band.toList 2 "\x7bband\x7d.npy".toList =
      .ok (band.toList ++ ['.', 'n', 'p', 'y']) := by
    rw [fillWithin, pieces_band]
    simp only [List.mapM_cons, List.mapM_nil, hfield, htext]
    rfl
  rw [fill, hfilled, ← toList_fileName]
  exact congrArg Except.ok String.ofList_toList

end Template

namespace FileSource

variable {s : FileSource}

/-- With the template that adds an ending, and without paths for single bands, the file of a band is in the
directory itself. -/
theorem pathFor_eq_child [Host] (htemplate : s.template = "\x7bband\x7d.npy") (hpaths : s.paths = []) {band : String}
    (h : Lexeme .ident band.toList) : s.pathFor band = .ok (s.directory.child (fileName band)) := by
  have hfill := Template.fill_band Host.attributes band
  unfold pathFor
  rw [hpaths, List.lookup_nil, htemplate, hfill]
  show Except.ok (s.directory.join (Path.ofText (fileName band))) = _
  rw [ofText_fileName h]
  rfl

/-! ## What is looked at -/

/-- The same is found for a band where the same is found at its path. -/
theorem load_congr_files [Host] {files files' : FileReader} {band : String}
    (h : ∀ path, s.pathFor band = .ok path → files' path = files path) :
    s.load files' band = s.load files band := by
  unfold load
  cases hpath : s.pathFor band with
  | error fault => rfl
  | ok path =>
    have hfiles := h path hpath
    simp only [Except.mapError, bind, Except.bind, hfiles]

/-- A run looks at the paths of the bands that it asks for, and at nothing else. -/
theorem run_congr_files [Host] {files files' : FileReader} {policy : DivisionPolicy} {formula : String}
    (h : ∀ band ∈ (Environment.run ⟨policy, s.source files⟩ formula []).requests, ∀ path,
      s.pathFor band = .ok path → files' path = files path) :
    s.run policy files' formula = s.run policy files formula := by
  have hanswers : Environment.Answers ⟨policy, s.source files⟩ (s.source files')
      (Environment.run ⟨policy, s.source files⟩ formula []) := by
    intro band hband
    unfold source
    rw [load_congr_files (h band hband)]
  have houtcome : Environment.run ⟨policy, s.source files'⟩ formula [] =
      Environment.run ⟨policy, s.source files⟩ formula [] := run_congr_source hanswers
  have hfatal (bands : List String)
      (hbands : ∀ band ∈ bands, ∀ path, s.pathFor band = .ok path → files' path = files path) :
      s.fatal? files' bands = s.fatal? files bands := by
    induction bands with
    | nil => rfl
    | cons band bands ih =>
      obtain ⟨hband, hbands⟩ := List.forall_mem_cons.mp hbands
      have := ih hbands
      unfold fatal? at this ⊢
      rw [List.findSome?_cons, List.findSome?_cons, load_congr_files hband, this]
  unfold run
  simp only [houtcome, hfatal _ h]

end FileSource

/-- Any text, well formed or not. Every band that it asks for is a word of the text: a letter or an underscore,
with letters, underscores and digits behind it, and no truth value. So its file is in the directory of the bands
itself, if the template adds an ending only and no band has a path of its own: the name of the file has no slash,
and neither does a run depend on what is found at any other path, nor does a command read files at other
paths. -/
theorem run_stays_inside [Host] (s : FileSource) (htemplate : s.template = "\x7bband\x7d.npy") (hpaths : s.paths = [])
    (formula : String) :
    (∀ env memo, ∀ band ∈ (Environment.run env formula memo).requests,
      Lexeme .ident band.toList ∧
      ∃ t ∈ (Cursor.start formula).lexemes, t.kind = .ident ∧ t.text = band) ∧
    (∀ policy files memo, ∀ band ∈ (Environment.run ⟨policy, s.source files⟩ formula memo).requests,
      s.pathFor band = .ok (s.directory.child (fileName band)) ∧ '/' ∉ (fileName band).toList) ∧
    (∀ policy files files',
      (∀ band ∈ (Environment.run ⟨policy, s.source files⟩ formula []).requests,
        files' (s.directory.child (fileName band)) = files (s.directory.child (fileName band))) →
      s.run policy files' formula = s.run policy files formula) ∧
    ∀ c : CommandLine.Command, c.formula = formula → c.options.source = s → ∀ path ∈ c.paths,
      ∃ t ∈ (Cursor.start formula).lexemes, t.kind = .ident ∧ path = s.directory.child (fileName t.text) := by
  have hlexeme {env : Environment} {memo : Memo} {band : String}
      (hband : band ∈ (env.run formula memo).requests) : Lexeme .ident band.toList :=
    lexeme_of_mem_namesOf (requests_subset env formula memo hband)
  refine ⟨fun env memo band hband => ?_, fun policy files memo band hband => ?_,
    fun policy files files' h => ?_, fun c hformula hsource path hpath => ?_⟩
  · exact ⟨hlexeme hband, mem_namesOf.mp (requests_subset env formula memo hband)⟩
  · exact ⟨FileSource.pathFor_eq_child htemplate hpaths (hlexeme hband), slash_not_mem_fileName (hlexeme hband)⟩
  · refine FileSource.run_congr_files fun band hband path hpath => ?_
    rw [FileSource.pathFor_eq_child htemplate hpaths (hlexeme hband)] at hpath
    obtain rfl := Except.ok.inj hpath
    exact h band hband
  · unfold CommandLine.Command.paths at hpath
    rw [hformula, hsource] at hpath
    obtain ⟨band, hband, hfound⟩ := List.mem_filterMap.mp hpath
    have hname := bands_parse_subset formula hband
    obtain ⟨t, ht, hkind, rfl⟩ := mem_namesOf.mp hname
    rw [FileSource.pathFor_eq_child htemplate hpaths (lexeme_of_mem_namesOf hname)] at hfound
    exact ⟨t, ht, hkind, (Option.some.inj hfound).symm⟩

/-- A text that looks like a path. Slashes divide, so the names around them are bands, each with a file in the
directory itself. -/
theorem run_stays_inside_slashes :
    bandFiles.template = "\x7bband\x7d.npy" ∧ bandFiles.paths = [] ∧
    (Environment.run ⟨.ieee, fun _ => .ok oneCell⟩ "etc/shadow" []).requests = ["etc", "shadow"] ∧
    Lexeme .ident "shadow".toList ∧
    (Environment.run ⟨.ieee, bandFiles.source fun _ => .nothing⟩ "etc/shadow" []).requests = ["etc"] ∧
    bandFiles.pathFor "etc" = .ok ⟨"", ["etc.npy"]⟩ := by
  have hboth : (Environment.run ⟨.ieee, fun _ => .ok oneCell⟩ "etc/shadow" []).requests =
      ["etc", "shadow"] := by decide +kernel
  have hfirst : (Environment.run ⟨.ieee, bandFiles.source fun _ => .nothing⟩ "etc/shadow" []).requests =
      ["etc"] := by decide +kernel
  obtain ⟨hnames, hpaths, -⟩ := run_stays_inside bandFiles rfl rfl "etc/shadow"
  refine ⟨rfl, rfl, hboth, ?_, hfirst, ?_⟩
  · apply (hnames ⟨.ieee, fun _ => .ok oneCell⟩ [] "shadow" _).1
    rw [hboth]
    decide
  · apply (hpaths .ieee (fun _ => .nothing) [] "etc" _).1
    rw [hfirst]
    decide

end RasterAlgebra
