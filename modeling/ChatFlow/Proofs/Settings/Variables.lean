import ChatFlow.Proofs.Text.Digits
import ChatFlow.Proofs.Text.Placeholder
import ChatFlow.Settings.Load

/-!
# Text from variables

A field that holds text takes it from the variable of the field.  Before that, the
text of the variable is read as a truth value or a number if it is one, and the
field takes what is written for that.  The field has the very text of the variable
exactly if it is written as it would be: this fails for capital letters in a truth
value, for a sign or a zero in front of a whole number that could be left out, and
for all decimals but those that are written for their numbers.  A usable
confirmation is none of these, so it is always taken as it is.
-/

namespace ChatFlow

namespace Decimal

/-! ## Written numbers -/

theorem mem_positional {digits : List Char} {exponent : Int} {c : Char}
    (hmem : c ∈ positional digits exponent) : c ∈ digits ∨ c = '0' ∨ c = '.' := by
  have hpadded (width : Nat) (hc : c ∈ Text.padLeft width digits) : c ∈ digits ∨ c = '0' := by
    rw [Text.padLeft, List.mem_append] at hc
    exact (hc.imp_left List.eq_of_mem_replicate).symm
  unfold positional at hmem
  split at hmem
  · rcases List.mem_append.mp hmem with hdigit | hzero
    · exact Or.inl hdigit
    · exact Or.inr (Or.inl (List.eq_of_mem_replicate hzero))
  · dsimp only at hmem
    rw [List.mem_append, List.mem_cons] at hmem
    rcases hmem with hwhole | rfl | hfraction
    · exact (hpadded _ (List.mem_of_mem_take hwhole)).imp_right Or.inl
    · exact Or.inr (Or.inr rfl)
    · exact (hpadded _ (List.mem_of_mem_drop hfraction)).imp_right Or.inl

/-- Numbers are written with digits, a sign, a point and the letters of three
words. -/
theorem mem_write {number : Binary64} {c : Char} (hmem : c ∈ write number) :
    c.isDigit = true ∨ c ∈ "NaN-inf.".toList := by
  have hzero : '0'.isDigit = true := rfl
  cases number with
  | nan =>
      have hnan : "NaN".toList <:+: "NaN-inf.".toList := ⟨[], "-inf.".toList, rfl⟩
      exact Or.inr (hnan.subset hmem)
  | infinite negative =>
      have hinfinite : write (.infinite negative) <:+: "NaN-inf.".toList := by
        cases negative with
        | false => exact ⟨"NaN-".toList, ['.'], rfl⟩
        | true => exact ⟨"NaN".toList, ['.'], rfl⟩
      exact Or.inr (hinfinite.subset hmem)
  | finite negative significand exponent =>
      have hsign (hc : c ∈ if negative then ['-'] else []) : c = '-' := by
        split at hc
        · exact List.mem_singleton.mp hc
        · contradiction
      unfold write at hmem
      dsimp only at hmem
      split at hmem
      · rcases List.mem_append.mp hmem with hc | hc
        · exact Or.inr (hsign hc ▸ by decide)
        · exact Or.inl (List.mem_singleton.mp hc ▸ hzero)
      · rcases List.mem_append.mp hmem with hc | hc
        · exact Or.inr (hsign hc ▸ by decide)
        · rcases mem_positional hc with hdigit | rfl | rfl
          · exact Or.inl (Text.isDigit_of_mem_decimal hdigit)
          · exact Or.inl hzero
          · exact Or.inr (by decide)

end Decimal

namespace Setting

/-- A value that has a text is no table, so it is laid over nothing as it is. -/
theorem layOver_none_of_text {value : Setting} {text : String}
    (htext : value.text? = some text) : value.layOver none = value := by
  cases value with
  | table entries => simp [text?] at htext
  | _ => simp [layOver]

/-- Nothing but a text has a brace in what is written for it. -/
theorem eq_text_of_brace {value : Setting} {text : String} (htext : value.text? = some text)
    (hbrace : '{' ∈ text.toList) : value = .text text := by
  cases value with
  | null | array _ | table _ => simp [text?] at htext
  | text other => rw [Option.some.inj htext]
  | bool on =>
      have hnone : '{' ∉ (if on then "true" else "false").toList := by cases on <;> decide
      exact absurd (Option.some.inj htext ▸ hbrace) hnone
  | integer number =>
      rw [← Option.some.inj htext, String.toList_ofList] at hbrace
      rcases Text.mem_signedDecimal hbrace with hdigit | hsign <;> contradiction
  | real number =>
      rw [← Option.some.inj htext, String.toList_ofList] at hbrace
      rcases Decimal.mem_write hbrace with hdigit | hletter
      · contradiction
      · exact absurd hletter (by decide)

end Setting

namespace Settings

/-! ## What the text of a variable stands for -/

/-- The text says true or false, with capital letters or without. -/
def IsSwitch (value : String) : Prop :=
  lowerName value = "true" ∨ lowerName value = "false"

/-- The text stands for a truth value or a number that is written otherwise. -/
inductive Respelled (value : String) : Prop
  | switch (hword : IsSwitch value) (hcase : lowerName value ≠ value)
  | whole {number : Int} (hread : Text.signed? value.toList = some number)
      (hstart : Text.HasSpareStart value.toList)
  | decimal {number : Binary64} (hfraction : Text.signed? value.toList = none)
      (hread : Decimal.read? value.toList = some number)
      (hwritten : Decimal.write number ≠ value.toList)

theorem respelled_switch_iff {value : String} (hword : IsSwitch value) :
    Respelled value ↔ lowerName value ≠ value := by
  refine ⟨fun hrespelled hself => ?_, .switch hword⟩
  have hlower : value = "true" ∨ value = "false" := hself ▸ hword
  rcases hrespelled with ⟨-, hcase⟩ | ⟨hread, -⟩ | ⟨-, hread, -⟩
  · exact hcase hself
  · rcases hlower with rfl | rfl <;> contradiction
  · rcases hlower with rfl | rfl <;> contradiction

theorem respelled_number_iff {value : String} (hword : ¬ IsSwitch value) :
    Respelled value ↔
      (∃ number, Text.signed? value.toList = some number ∧ Text.HasSpareStart value.toList) ∨
        Text.signed? value.toList = none ∧
          ∃ number, Decimal.read? value.toList = some number ∧
            Decimal.write number ≠ value.toList := by
  constructor
  · rintro (⟨hswitch, -⟩ | ⟨hread, hstart⟩ | ⟨hfraction, hread, hwritten⟩)
    · contradiction
    · exact Or.inl ⟨_, hread, hstart⟩
    · exact Or.inr ⟨hfraction, _, hread, hwritten⟩
  · rintro (⟨number, hread, hstart⟩ | ⟨hfraction, number, hread, hwritten⟩)
    · exact .whole hread hstart
    · exact .decimal hfraction hread hwritten

theorem respelled_whole_iff {value : String} (hword : ¬ IsSwitch value) {number : Int}
    (hread : Text.signed? value.toList = some number) :
    Respelled value ↔ Text.HasSpareStart value.toList := by
  simp [respelled_number_iff hword, hread]

theorem respelled_decimal_iff {value : String} (hword : ¬ IsSwitch value)
    (hfraction : Text.signed? value.toList = none) {number : Binary64}
    (hread : Decimal.read? value.toList = some number) :
    Respelled value ↔ Decimal.write number ≠ value.toList := by
  simp [respelled_number_iff hword, hfraction, hread]

theorem not_respelled {value : String} (hword : ¬ IsSwitch value)
    (hfraction : Text.signed? value.toList = none)
    (hread : Decimal.read? value.toList = none) : ¬ Respelled value := by
  simp [respelled_number_iff hword, hfraction, hread]

/-- What a variable stands for has a text, which is the text of the variable exactly if
that is not respelled. -/
theorem exists_text_ofVariable (value : String) :
    ∃ text, (ofVariable value).text? = some text ∧ (text = value ↔ ¬ Respelled value) := by
  by_cases hword : IsSwitch value
  · refine ⟨lowerName value, ?_, ?_⟩
    · rcases hword with htrue | hfalse
      · simp [ofVariable, htrue, Setting.text?]
      · simp [ofVariable, hfalse, Setting.text?]
    · rw [respelled_switch_iff hword, not_ne_iff]
  · obtain ⟨htrue, hfalse⟩ := not_or.mp hword
    simp only [ofVariable, htrue, hfalse, if_false]
    cases hwhole : Text.signed? value.toList with
    | some number =>
        refine ⟨_, rfl, ?_⟩
        rw [respelled_whole_iff hword hwhole, ← Text.eq_signedDecimal_iff hwhole,
          ← String.toList_inj, String.toList_ofList, eq_comm]
    | none =>
        cases hread : Decimal.read? value.toList with
        | some number =>
            refine ⟨_, rfl, ?_⟩
            rw [respelled_decimal_iff hword hwhole hread, not_ne_iff, ← String.toList_inj,
              String.toList_ofList]
        | none => exact ⟨value, rfl, iff_of_true rfl (not_respelled hword hwhole hread)⟩

theorem respelled_iff (value : String) :
    Respelled value ↔ (ofVariable value).text? ≠ some value := by
  obtain ⟨text, htext, hkept⟩ := exists_text_ofVariable value
  rw [htext, ne_eq, Option.some_inj, hkept, not_not]

instance (value : String) : Decidable (Respelled value) :=
  decidable_of_iff _ (respelled_iff value).symm

example : Respelled "True" ∧ Respelled "1.0" ∧ ¬ Respelled "1.5" := by decide +kernel

theorem eq_of_ofVariable_eq_text {value text : String} (hvalue : ofVariable value = .text text) :
    text = value := by
  unfold ofVariable at hvalue
  grind

/-! ## Fields that hold text -/

inductive TextField
  | handoffPrompt
  | captureConfirmation
  | fallback
  | businessName
  | primaryColor
  | logLevel
deriving DecidableEq, Repr

namespace TextField

/-- The name of the section of a field. -/
def group : TextField → String
  | .handoffPrompt | .captureConfirmation | .fallback => "messages"
  | .businessName | .primaryColor => "display"
  | .logLevel => "logging"

/-- The name of a field in its section. -/
def key : TextField → String
  | .handoffPrompt => "handoff_prompt"
  | .captureConfirmation => "capture_confirmation"
  | .fallback => "fallback"
  | .businessName => "business_name"
  | .primaryColor => "primary_color"
  | .logLevel => "level"

def path (field : TextField) : String :=
  field.group ++ "." ++ field.key

def get (settings : Settings) : TextField → String
  | .handoffPrompt => settings.options.messages.handoffPrompt
  | .captureConfirmation => settings.options.messages.captureConfirmation
  | .fallback => settings.options.messages.fallback
  | .businessName => settings.display.businessName
  | .primaryColor => settings.display.primaryColor
  | .logLevel => settings.logLevel

def put (text : String) (settings : Settings) : TextField → Settings
  | .handoffPrompt => { settings with options.messages.handoffPrompt := text }
  | .captureConfirmation => { settings with options.messages.captureConfirmation := text }
  | .fallback => { settings with options.messages.fallback := text }
  | .businessName => { settings with display.businessName := text }
  | .primaryColor => { settings with display.primaryColor := text }
  | .logLevel => { settings with logLevel := text }

/-- The name of the variable of a field. -/
def variableName (field : TextField) : String :=
  "FLUXO_" ++ field.group.toUpper ++ "__" ++ field.key.toUpper

theorem variablePath?_variableName (field : TextField) :
    variablePath? field.variableName = some field.path := by
  cases field <;> decide +kernel

@[simp] theorem get_put (text : String) (settings : Settings) (field : TextField) :
    field.get (field.put text settings) = text := by
  cases field <;> rfl

theorem steps_path (field : TextField) :
    Step.path field.path = [.name field.group, .name field.key] := by
  cases field <;> decide +kernel

theorem path_ne (field : TextField) : field.path ≠ "config_path" := by
  cases field <;> decide

theorem lowerName_names (field : TextField) :
    lowerName field.group = field.group ∧ lowerName field.key = field.key := by
  cases field <;> decide +kernel

/-- A value that is stored under the path of a field stands there alone. -/
theorem store_path (field : TextField) {value : Setting} (hlaid : value.layOver none = value) :
    value.store (some (.table [])) (Step.path field.path) =
      .table [(field.group, .table [(field.key, value)])] := by
  obtain ⟨hgroup, hkey⟩ := field.lowerName_names
  simp [field.steps_path, Setting.store, hgroup, hkey, Setting.entries, Entries.put, hlaid]

theorem ofSetting_alone (field : TextField) {value : Setting} {text : String}
    (htext : value.text? = some text) :
    ofSetting (.table [(field.group, .table [(field.key, value)])]) = .ok (field.put text {}) := by
  cases field <;>
    simp [ofSetting, group, key, put, Setting.entries, Section.ofSetting, List.lookup_cons,
      readMessages, readWindow, readDisplay, readLogLevel, Section.field, Section.get?, htext,
      bind, Except.bind, pure, Except.pure]

end TextField

/-! ## One variable and no file -/

/-- The variables that give settings. -/
def settingVariables (environment : Entries String) : Entries String :=
  environment.filter fun entry => (variablePath? entry.1).isSome

theorem ofVariables_settingVariables (environment : Entries String) :
    ofVariables (settingVariables environment) = ofVariables environment := by
  rw [ofVariables, settingVariables, List.foldl_filter, ofVariables]
  refine congrArg (fun step => environment.foldl step []) ?_
  funext source entry
  cases hpath : variablePath? entry.1 <;> simp [hpath]

/-- The variable that names the settings file gives a setting too, but of no text field. -/
theorem variablePath?_fileVariable : variablePath? fileVariable = some "config_path" := by
  decide +kernel

theorem readFile_of_missing {formats : List Format} {files : Files} {path : String}
    (hmissing : ∀ tried ∈ path :: (extendedPaths formats path).map Prod.fst,
      files.isFile tried = false) (required : Bool) :
    readFile formats files path required =
      if required then .error .unavailable else .ok [] := by
  have hlocate : locate? formats files path = none := by
    unfold locate?
    rw [if_neg (by simp [hmissing path List.mem_cons_self]), List.find?_eq_none]
    intro extended hextended
    simp [hmissing extended.1 (List.mem_cons_of_mem _ (List.mem_map_of_mem hextended))]
  simp [readFile, hlocate]

section

variable {sources : Sources} {name value : String} {field : TextField}

theorem askedPath?_of_only (hname : variablePath? name = some field.path)
    (honly : settingVariables sources.allVariables = [(name, value)]) :
    sources.askedPath? = sources.path? := by
  have hlookup : sources.allVariables.lookup fileVariable = none := by
    by_contra hsome
    obtain ⟨asked, hfound⟩ := Option.ne_none_iff_exists'.mp hsome
    obtain ⟨before, after, hvariables, -⟩ := List.lookup_eq_some_iff.mp hfound
    -- It would be a second variable that gives a setting.
    have hmem : (fileVariable, asked) ∈ settingVariables sources.allVariables := by
      refine List.mem_filter.mpr ⟨?_, Option.isSome_of_eq_some variablePath?_fileVariable⟩
      rw [hvariables]
      exact List.mem_append_right _ List.mem_cons_self
    rw [honly, List.mem_singleton, Prod.mk.injEq] at hmem
    rw [← hmem.1, variablePath?_fileVariable, Option.some_inj] at hname
    exact field.path_ne hname.symm
  simp [Sources.askedPath?, hlookup]

theorem fileEntries_of_only (hname : variablePath? name = some field.path)
    (honly : settingVariables sources.allVariables = [(name, value)])
    (hfiles : ∀ tried ∈ sources.triedPaths, sources.files.isFile tried = false) :
    sources.fileEntries = if sources.path?.isSome then .error .unavailable else .ok [] := by
  have hasked := askedPath?_of_only hname honly
  unfold Sources.triedPaths at hfiles
  unfold Sources.fileEntries
  rw [hasked] at hfiles ⊢
  cases hpath : sources.path? with
  | none => exact readFile_of_missing (by simpa [hpath] using hfiles) false
  | some path => exact readFile_of_missing (by simpa [hpath] using hfiles) true

/-- If a file is asked for, there are no settings; otherwise they are the defaults but
for the field of the variable. -/
theorem load_of_only (hname : variablePath? name = some field.path)
    (honly : settingVariables sources.allVariables = [(name, value)])
    (hfiles : ∀ tried ∈ sources.triedPaths, sources.files.isFile tried = false)
    {text : String} (htext : (ofVariable value).text? = some text) :
    load sources =
      if sources.path?.isSome then .error (.load .unavailable)
      else (field.put text {}).defect?.elim (.ok (field.put text {})) (.error ∘ .defect) := by
  have hvariables : ofVariables sources.allVariables = [(field.path, ofVariable value)] := by
    rw [← ofVariables_settingVariables, honly]
    simp [ofVariables, hname, Entries.put]
  unfold load Sources.root
  rw [fileEntries_of_only hname honly hfiles, hvariables]
  split
  · rfl
  · have hroot : ((Setting.table []).layer []).layer [(field.path, ofVariable value)] =
        .table [(field.group, .table [(field.key, ofVariable value)])] :=
      field.store_path (Setting.layOver_none_of_text htext)
    rw [Except.map, hroot, Except.bind, field.ofSetting_alone htext]
    dsimp [Except.mapError, bind, Except.bind]
    cases (field.put text {}).defect? <;> rfl

/-- If a variable of a text field is the only one that gives a setting, and there is no
settings file, then the settings are the defaults but for that field.  The field has the
text of the variable exactly if that is not respelled; the confirmation always has it. -/
theorem variable_keeps_text_iff (hname : variablePath? name = some field.path)
    (honly : settingVariables sources.allVariables = [(name, value)])
    (hfiles : ∀ tried ∈ sources.triedPaths, sources.files.isFile tried = false)
    {settings : Settings} (hload : load sources = .ok settings) :
    settings = field.put (field.get settings) {} ∧
      (field.get settings = value ↔ ¬ Respelled value) ∧
      (field = .captureConfirmation → field.get settings = value) := by
  obtain ⟨text, htext, hkept⟩ := exists_text_ofVariable value
  have hsettings : settings = field.put text {} := by
    rw [load_of_only hname honly hfiles htext] at hload
    split at hload
    · contradiction
    · cases hdefect : (field.put text {}).defect? with
      | some defect => simp [hdefect] at hload
      | none => simpa [hdefect, eq_comm] using hload
  have hget : field.get settings = text := by rw [hsettings, field.get_put]
  rw [hget]
  refine ⟨hsettings, hkept, fun hfield => ?_⟩
  subst hfield
  -- A confirmation that is loaded has a placeholder, and with it a brace.
  obtain ⟨-, hmark⟩ := defect?_eq_none_iff.mp (defect?_of_load hload)
  rw [Text.hasPlaceholder_iff] at hmark
  have hbrace : '{' ∈ text.toList := hget ▸ hmark.subset (by decide)
  exact eq_of_ofVariable_eq_text (Setting.eq_text_of_brace htext hbrace)

end

/-- A year is a name that is kept. -/
theorem variable_keeps_text_iff_year :
    let sources : Sources :=
      { files := ⟨fun _ => .error .missing⟩
        formats := [.toml, .json]
        dotenv? := none
        environment := [("HOME", "/"), ("FLUXO_DISPLAY__BUSINESS_NAME", "1984")] }
    ∃ settings, load sources = .ok settings ∧ settings.display.businessName = "1984" ∧
      ¬ Respelled "1984" := by
  intro sources
  have hload : load sources = .ok { display.businessName := "1984" } := by decide +kernel
  have honly : settingVariables sources.allVariables =
      [(TextField.businessName.variableName, "1984")] := by decide +kernel
  obtain ⟨-, hkept, -⟩ := variable_keeps_text_iff
    TextField.businessName.variablePath?_variableName honly (fun _ _ => rfl) hload
  exact ⟨_, hload, rfl, hkept.mp rfl⟩

/-- A name made of digits loses the zeros in front of them. -/
theorem exists_variable_respelled :
    let sources : Sources :=
      { files := ⟨fun _ => .error .missing⟩
        formats := [.toml, .json]
        dotenv? := none
        environment := [("FLUXO_DISPLAY__BUSINESS_NAME", "007")] }
    settingVariables sources.allVariables = [(TextField.businessName.variableName, "007")] ∧
      (∀ path, sources.files.isFile path = false) ∧
      ∃ settings, load sources = .ok settings ∧ TextField.businessName.get settings = "7" := by
  intro sources
  have hload : load sources = .ok { display.businessName := "7" } := by decide +kernel
  exact ⟨by decide +kernel, fun _ => rfl, _, hload, rfl⟩

end Settings

end ChatFlow
