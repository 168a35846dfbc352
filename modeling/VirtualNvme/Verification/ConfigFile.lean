import VirtualNvme.Server.Config

/-!
# The server's configuration file

A configuration file as data: lines with white space around them that are empty, comments,
headings or assignments. `ConfigLoadFile` carries out exactly the assignments of the file, in
order, each in the section of the heading before it. In a file without headings it finds nothing
to do.
-/

namespace VirtualNvme

/-- A line of a configuration file, without the white space around it. -/
inductive ConfigText where
  | blank
  | comment (mark : Char) (text : List Char)
  | heading (name rest : List Char)
  | assignment (key gap gap' value : List Char)
  deriving DecidableEq

/-- A line with the white space around it. -/
structure ConfigRow where
  before : List Char := []
  text : ConfigText
  after : List Char := []
  deriving DecidableEq

/-- No white space at either end. -/
def Trimmed (str : List Char) : Prop :=
  (∀ c ∈ str.head?, isSpace c = false) ∧ ∀ c ∈ str.getLast?, isSpace c = false

def Blank (str : List Char) : Prop := ∀ c ∈ str, isSpace c = true

-- the search would rather go through all characters than through the text
instance (str : List Char) : Decidable (Trimmed str) :=
  @instDecidableAnd _ _ (Option.decidableForallMem _) (Option.decidableForallMem _)

instance (str : List Char) : Decidable (Blank str) := List.decidableBAll _ _

namespace ConfigText

def chars : ConfigText → List Char
  | blank => []
  | comment mark text => mark :: text
  | heading name rest => '[' :: (name ++ ']' :: rest)
  | assignment key gap gap' value => key ++ gap ++ '=' :: (gap' ++ value)

/-- The characters are what they are meant to be. -/
def Valid : ConfigText → Prop
  | blank => True
  | comment mark _ => mark = ';' ∨ mark = '#'
  | heading name _ => ']' ∉ name ∧ name.length ≤ 63
  | assignment key gap gap' value =>
    '=' ∉ key ∧ (∀ c ∈ key.head?, c ≠ ';' ∧ c ≠ '#' ∧ c ≠ '[') ∧
      Trimmed key ∧ Blank gap ∧ Blank gap' ∧ Trimmed value

instance (text : ConfigText) : Decidable text.Valid :=
  match text with
  | blank => isTrue trivial
  | comment _ _ => inferInstanceAs (Decidable (_ ∨ _))
  | heading _ _ => inferInstanceAs (Decidable (_ ∧ _))
  | assignment _ _ _ _ =>
    @instDecidableAnd _ _ inferInstance
      (@instDecidableAnd _ _ (Option.decidableForallMem _) inferInstance)

end ConfigText

def ConfigRow.chars (r : ConfigRow) : List Char := r.before ++ r.text.chars ++ r.after

/-- A line that fits into the buffer. -/
structure ConfigRow.Valid (r : ConfigRow) : Prop where
  text : r.text.Valid
  trimmed : Trimmed r.text.chars
  before : Blank r.before
  after : Blank r.after
  newline : '\n' ∉ r.chars
  length_le : r.chars.length ≤ 1022

/-- The file with these lines. -/
def fileText (rows : List ConfigRow) : List Char := rows.flatMap fun r => r.chars ++ ['\n']

/-- The assignments of the lines, each with the section it is in. -/
def assignments (currentSection : List Char) :
    List ConfigText → List (List Char × List Char × List Char)
  | [] => []
  | .heading name _ :: texts => assignments name texts
  | .assignment key _ _ value :: texts =>
    (currentSection, key, value) :: assignments currentSection texts
  | _ :: texts => assignments currentSection texts

/-- Carry out assignments. -/
def assignAll (calls : StringCalls) (c : ServerConfig)
    (as : List (List Char × List Char × List Char)) : Option ServerConfig :=
  as.foldlM (fun c a => configKey calls a.1 a.2.1 a.2.2 c) c

/-! ## White space -/

theorem dropWhile_trimmed {str : List Char} (h : Trimmed str) (rest : List Char) :
    (str ++ rest).dropWhile isSpace = if str = [] then rest.dropWhile isSpace else str ++ rest := by
  cases str with
  | nil => rfl
  | cons c str =>
      rw [if_neg (List.cons_ne_nil c str), List.cons_append]
      exact List.dropWhile_cons_of_neg (Bool.not_eq_true _ ▸ h.1 c rfl)

theorem rdropWhile_blank (str : List Char) {after : List Char} (h : Blank after) :
    (str ++ after).rdropWhile isSpace = str.rdropWhile isSpace := by
  induction after using List.reverseRecOn with
  | nil => rw [List.append_nil]
  | append_singleton after c ih =>
      rw [← List.append_assoc, List.rdropWhile_concat_pos _ _ _ (h c (by simp))]
      exact ih fun d hd => h d (List.mem_append_left _ hd)

/-- The white space around a text is dropped. -/
theorem trimString_eq {before str after : List Char} (hbefore : Blank before) (h : Trimmed str)
    (hafter : Blank after) : trimString (before ++ str ++ after) = str := by
  unfold trimString
  rw [List.append_assoc, List.dropWhile_append_of_pos hbefore, dropWhile_trimmed h]
  split_ifs with hnil
  · subst hnil
    rw [List.dropWhile_eq_nil_iff.mpr hafter]
    rfl
  · rw [rdropWhile_blank str hafter, List.rdropWhile_eq_self_iff]
    intro hne
    exact Bool.not_eq_true _ ▸ h.2 _ (List.getLast?_eq_getLast_of_ne_nil hne)

/-! ## One line -/

section Lines

variable {calls : StringCalls}

theorem takeWhile_delimiter {d : Char} {str : List Char} (h : d ∉ str) (rest : List Char) :
    (str ++ d :: rest).takeWhile (· ≠ d) = str := by
  have hne : ∀ c ∈ str, decide (c ≠ d) = true := by
    intro c hc
    exact decide_eq_true fun heq => h (heq ▸ hc)
  rw [List.takeWhile_append_of_pos hne,
    List.takeWhile_cons_of_neg (by simp), List.append_nil]

theorem dropWhile_delimiter {d : Char} {str : List Char} (h : d ∉ str) (rest : List Char) :
    (str ++ d :: rest).dropWhile (· ≠ d) = d :: rest := by
  have hne : ∀ c ∈ str, decide (c ≠ d) = true := by
    intro c hc
    exact decide_eq_true fun heq => h (heq ▸ hc)
  rw [List.dropWhile_append_of_pos hne,
    List.dropWhile_cons_of_neg (by simp)]

/-- What `ConfigLoadFile` does with a line. -/
def ConfigText.read (calls : StringCalls) (s : ConfigLoading) : ConfigText → Option ConfigLoading
  | blank | comment _ _ => some s
  | heading name _ => some { s with currentSection := name }
  | assignment key _ _ value =>
    (configKey calls s.currentSection key value s.config).map fun config => { s with config }

theorem configLine_trimmed {s : ConfigLoading} {line : List Char} {c : Char} {rest : List Char}
    (h : trimString line = c :: rest) :
    configLine calls s line =
      if c = ';' ∨ c = '#' then some s
      else if c = '[' then
        if ']' ∈ rest then some { s with currentSection := (rest.takeWhile (· ≠ ']')).take 63 }
        else some s
      else if '=' ∈ c :: rest then
        let key := trimString ((c :: rest).takeWhile (· ≠ '='))
        let value := trimString ((c :: rest).dropWhile (· ≠ '=')).tail
        (configKey calls s.currentSection key value s.config).map fun config => { s with config }
      else some s := by
  unfold configLine
  rw [h]

/-- A valid line is read as what it is. -/
theorem configLine_read {text : ConfigText} (hvalid : text.Valid) (s : ConfigLoading)
    {line : List Char} (h : trimString line = text.chars) :
    configLine calls s line = text.read calls s := by
  cases text with
  | blank =>
      unfold configLine
      rw [h]
      rfl
  | comment mark text =>
      have hmark : mark = ';' ∨ mark = '#' := hvalid
      rw [configLine_trimmed h, if_pos hmark]
      rfl
  | heading name rest =>
      obtain ⟨hname, hlength⟩ := hvalid
      rw [configLine_trimmed h, if_neg (by decide), if_pos rfl, if_pos (by simp),
        takeWhile_delimiter hname, List.take_of_length_le hlength]
      rfl
  | assignment key gap gap' value =>
      obtain ⟨hkey, hmark, htrimmed, hgap, hgap', hvalue⟩ := hvalid
      have hdelim : '=' ∉ key ++ gap := by
        intro hmem
        rcases List.mem_append.mp hmem with hmem | hmem
        · exact hkey hmem
        · exact absurd (hgap '=' hmem) (by decide)
      have hmark' : ∀ c, (key ++ gap ++ '=' :: (gap' ++ value)).head? = some c →
          c ≠ ';' ∧ c ≠ '#' ∧ c ≠ '[' := by
        intro c hc
        cases key with
        | cons d key => exact hmark c hc
        | nil =>
            cases gap with
            | nil =>
                obtain rfl : '=' = c := Option.some_inj.mp hc
                decide
            | cons d gap =>
                obtain rfl : d = c := Option.some_inj.mp hc
                have hspace := hgap d List.mem_cons_self
                refine ⟨?_, ?_, ?_⟩ <;>
                  · rintro rfl
                    exact absurd hspace (by decide)
      have hnil : Blank [] := fun c hc => absurd hc List.not_mem_nil
      have hread : trimString (key ++ gap) = key := trimString_eq hnil htrimmed hgap
      have hread' : trimString (gap' ++ value) = value := by
        have htrim := trimString_eq hgap' hvalue hnil
        rwa [List.append_nil] at htrim
      have hchars : (ConfigText.assignment key gap gap' value).chars =
          key ++ gap ++ '=' :: (gap' ++ value) := rfl
      cases hline : (ConfigText.assignment key gap gap' value).chars with
      | nil =>
          rw [hchars] at hline
          exact absurd hline (by simp)
      | cons c rest =>
          rw [hline] at h
          have hc := hmark' c (by rw [← hchars, hline]; rfl)
          rw [configLine_trimmed h, if_neg (fun hor => hor.elim hc.1 hc.2.1), if_neg hc.2.2,
            if_pos (by rw [← hline, hchars]; simp)]
          show (configKey calls _ (trimString _) (trimString _) _).map _ = _
          rw [← hline, hchars, takeWhile_delimiter hdelim, dropWhile_delimiter hdelim, hread]
          show (configKey calls _ _ (trimString (gap' ++ value)) _).map _ = _
          rw [hread']
          rfl

/-- `fgets` returns a line that fits with its newline. -/
theorem fgetsLines_line (line : List Char) {str : List Char} (hnewline : '\n' ∉ str)
    (hlength : line.length + str.length ≤ 1022) (rest : List Char) :
    fgetsLines line (str ++ '\n' :: rest) = (line ++ str ++ ['\n']) :: fgetsLines [] rest := by
  induction str generalizing line with
  | nil =>
      rw [List.nil_append, List.append_nil]
      exact if_pos (Or.inl rfl)
  | cons c str ih =>
      have hc : c ≠ '\n' := fun heq => hnewline (heq ▸ List.mem_cons_self)
      have hroom : line.length + 1 ≠ 1023 := by
        rw [List.length_cons] at hlength
        omega
      have hstep : fgetsLines line (c :: (str ++ '\n' :: rest)) =
          fgetsLines (line ++ [c]) (str ++ '\n' :: rest) :=
        if_neg (fun hor => hor.elim hc hroom)
      have hfits : (line ++ [c]).length + str.length ≤ 1022 := by
        rw [List.length_append, List.length_singleton]
        rw [List.length_cons] at hlength
        omega
      rw [List.cons_append, hstep,
        ih (line ++ [c]) (fun hmem => hnewline (List.mem_cons_of_mem _ hmem)) hfits]
      simp

theorem ConfigRow.Valid.configLine {r : ConfigRow} (h : r.Valid) (s : ConfigLoading) :
    configLine calls s (r.chars ++ ['\n']) = r.text.read calls s := by
  refine configLine_read h.text s ?_
  show trimString (r.before ++ r.text.chars ++ r.after ++ ['\n']) = _
  rw [List.append_assoc _ r.after]
  refine trimString_eq h.before h.trimmed fun c hc => ?_
  rcases List.mem_append.mp hc with hc | hc
  · exact h.after c hc
  · obtain rfl := List.mem_singleton.mp hc
    decide

end Lines

/-! ## The whole file -/

theorem fgetsLines_fileText {rows : List ConfigRow} (h : ∀ r ∈ rows, r.Valid) :
    fgetsLines [] (fileText rows) = rows.map fun r => r.chars ++ ['\n'] := by
  induction rows with
  | nil => rfl
  | cons r rows ih =>
      obtain ⟨hr, hrows⟩ := List.forall_mem_cons.mp h
      have htext : fileText (r :: rows) = r.chars ++ '\n' :: fileText rows := by
        show (r.chars ++ ['\n']) ++ fileText rows = _
        rw [List.append_assoc]
        rfl
      have hlength : ([] : List Char).length + r.chars.length ≤ 1022 := by
        rw [List.length_nil, Nat.zero_add]
        exact hr.length_le
      rw [htext, fgetsLines_line [] hr.newline hlength, ih hrows]
      rfl

/-- The texts change the section and the configuration, and what they do to the configuration is
to carry out the assignments. -/
theorem foldlM_read (calls : StringCalls) (texts : List ConfigText) (s : ConfigLoading) :
    (texts.foldlM (ConfigText.read calls) s).map (·.config) =
      assignAll calls s.config (assignments s.currentSection texts) := by
  induction texts generalizing s with
  | nil => rfl
  | cons text texts ih =>
      rw [List.foldlM_cons]
      cases text with
      | blank => exact ih s
      | comment mark text => exact ih s
      | heading name rest => exact ih { s with currentSection := name }
      | assignment key gap gap' value =>
          show ((configKey calls s.currentSection key value s.config).map
            (fun config => { s with config }) >>= _).map _ = _
          have hcons : assignAll calls s.config
              (assignments s.currentSection (.assignment key gap gap' value :: texts)) =
              configKey calls s.currentSection key value s.config >>= fun c =>
                assignAll calls c (assignments s.currentSection texts) := List.foldlM_cons
          rw [hcons]
          cases configKey calls s.currentSection key value s.config with
          | none => rfl
          | some c => exact ih { s with config := c }

theorem configLoadFile_fileText (calls : StringCalls) {rows : List ConfigRow}
    (h : ∀ r ∈ rows, r.Valid) (c : ServerConfig) :
    configLoadFile calls (fileText rows) c =
      assignAll calls c (assignments [] (rows.map (·.text))) := by
  have hfold : ∀ s : ConfigLoading,
      (rows.map fun r => r.chars ++ ['\n']).foldlM (configLine calls) s =
        (rows.map (·.text)).foldlM (ConfigText.read calls) s := by
    clear c
    induction rows with
    | nil => exact fun _ => rfl
    | cons r rows ih =>
        intro s
        obtain ⟨hr, hrows⟩ := List.forall_mem_cons.mp h
        rw [List.map_cons, List.map_cons, List.foldlM_cons, List.foldlM_cons, hr.configLine]
        exact bind_congr fun s => ih hrows s
  unfold configLoadFile
  rw [fgetsLines_fileText h, hfold]
  exact foldlM_read calls _ _

/-! ## Files without headings -/

/-- A line that does not start with a bracket leaves the section. -/
theorem configLine_noHeading {calls : StringCalls} {c : ServerConfig} {line : List Char}
    (h : (trimString line).head? ≠ some '[') :
    configLine calls { config := c } line = some { config := c } := by
  cases hline : trimString line with
  | nil =>
      unfold configLine
      rw [hline]
  | cons d rest =>
      have hd : d ≠ '[' := by
        rintro rfl
        rw [hline] at h
        exact h rfl
      rw [configLine_trimmed hline, if_neg hd]
      split_ifs
      · rfl
      · rfl
      · rfl

theorem configLoadFile_noHeading (calls : StringCalls) {content : List Char}
    (h : ∀ line ∈ fgetsLines [] content, (trimString line).head? ≠ some '[') (c : ServerConfig) :
    configLoadFile calls content c = some c := by
  unfold configLoadFile
  have hfold : (fgetsLines [] content).foldlM (configLine calls) { config := c } =
      some { config := c } := by
    generalize fgetsLines [] content = lines at h ⊢
    induction lines with
    | nil => rfl
    | cons line lines ih =>
        obtain ⟨hline, hlines⟩ := List.forall_mem_cons.mp h
        rw [List.foldlM_cons, configLine_noHeading hline]
        exact ih hlines
  rw [hfold]
  rfl

/-- Loading a file carries out its assignments, in order and each in its section. A file without
headings has none. -/
theorem configLoadFile_assigns (calls : StringCalls) (c : ServerConfig) :
    (∀ rows : List ConfigRow, (∀ r ∈ rows, r.Valid) →
      configLoadFile calls (fileText rows) c =
        assignAll calls c (assignments [] (rows.map (·.text)))) ∧
    ∀ content : List Char,
      (∀ line ∈ fgetsLines [] content, (trimString line).head? ≠ some '[') →
        configLoadFile calls content c = some c :=
  ⟨fun _ h => configLoadFile_fileText calls h c,
    fun _ h => configLoadFile_noHeading calls h c⟩

/-- A file that asks for a file backend, and one that asks for it without a heading, as the example
file that comes with the server does. -/
theorem configLoadFile_assigns_backend :
    let calls : StringCalls :=
      { strtod := fun str => (.finite 0, str), multiByteToWideChar := fun _ old => old }
    let heading : ConfigRow := { text := .heading "Storage".toList [] }
    let backend : ConfigRow := { text := .assignment "type".toList [] [' '] "file".toList }
    configLoadFile calls (fileText [heading, backend]) {} =
        some { storage := { backendType := .file } } ∧
      configLoadFile calls "backend=file\nsize=64M\n".toList {} = some {} := by
  intro calls heading backend
  have hheading : heading.Valid :=
    ⟨by decide, by decide, by decide, by decide, by decide, by decide⟩
  have hbackend : backend.Valid :=
    ⟨by decide, by decide, by decide, by decide, by decide, by decide⟩
  obtain ⟨hrows, hplain⟩ := configLoadFile_assigns calls {}
  refine ⟨(hrows [heading, backend] ?_).trans ?_, hplain _ ?_⟩
  · simp [hheading, hbackend]
  · rfl
  · decide

end VirtualNvme
