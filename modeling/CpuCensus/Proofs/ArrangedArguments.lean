import CpuCensus.CommandLine.Arguments
import Mathlib

/-!
# Arguments in any arrangement

A command line is made of items: switches, and parameters with their values. As long as each is
given once and fits the command, neither their order matters nor on which side of the command those
stand that both scopes know. A scan of the items is followed one item at a time; the invariant is
that what waits, once settled, gives what the items so far have asked for.
-/

namespace CpuCensus.CommandLine

/-! ### Items of a command line -/

/-- One thing that is given on a command line. -/
inductive Item where
  | verbose (short : Bool)
  | json
  | value (p : Parameter) (text : String)
  deriving DecidableEq

namespace Item

/-- The words by which the item is given. -/
def words : Item → List String
  | verbose true => ["-v"]
  | verbose false => ["--verbose"]
  | json => ["--json"]
  | value p text => ["--" ++ p.word, text]

/-- The option that the item gives. -/
def option : Item → Switch ⊕ Parameter
  | verbose _ => .inl .verbose
  | json => .inl .json
  | value p _ => .inr p

/-- The same item, with every switch by its long name. -/
def long : Item → Item
  | verbose _ => verbose false
  | item => item

/-- The item may stand before the command. -/
def IsGlobal : Item → Prop
  | verbose _ | value .simulate _ => True
  | _ => False

/-- The item may stand after the command. -/
def Fits (command : CommandWord) : Item → Prop
  | verbose _ | value .simulate _ => True
  | json => command ≠ .verify
  | value _ _ => command ≠ .sample

/-- The scope knows the option that the item gives. -/
def KnownIn (scope : Scope) : Item → Prop
  | verbose _ => .verbose ∈ scope.switches
  | json => .json ∈ scope.switches
  | value p _ => p ∈ scope.parameters

private theorem knownIn_outer {item : Item} (h : item.IsGlobal) : item.KnownIn .outer := by
  cases item with
  | verbose short => simp [KnownIn, Scope.switches]
  | json => cases h
  | value p text =>
    cases p with
    | simulate => simp [KnownIn, Scope.parameters]
    | _ => cases h

private theorem knownIn_inner {item : Item} {command : CommandWord} (h : item.Fits command) :
    item.KnownIn (.inner command) := by
  cases item with
  | verbose short => cases command <;> simp [KnownIn, Scope.switches]
  | json => cases command <;> simp_all [Fits, KnownIn, Scope.switches]
  | value p text => cases p <;> cases command <;> simp_all [Fits, KnownIn, Scope.parameters]

end Item

/-- The parameter can take the text for its value. -/
def Parameter.takes (p : Parameter) (text : String) : Bool :=
  match p with
  | .simulate => (Simulation.parse text).toOption.isSome
  | .durationMs | .periodMs | .maxRecords => (Text.unsigned? Text.bound64 text).isSome
  | .name => true

/-- What is given for a parameter is a value that it can take, and does not look like an option. -/
def Item.Valid : Item → Prop
  | .value p text => p.takes text = true ∧ text.toList.head? ≠ some '-'
  | _ => True

/-- Some item is the switch for more output. -/
def verboseIn (items : List Item) : Bool := items.any fun item => item.option = .inl .verbose

/-- Some item is the switch for JSON. -/
def jsonIn (items : List Item) : Bool := items.any fun item => item.option = .inl .json

/-- The text that the items give for a parameter. -/
def textIn (items : List Item) (p : Parameter) : Option String :=
  items.findSome? fun
    | .value q text => if q = p then some text else none
    | _ => none

/-- The command line with these items before and after the command. -/
def line (before : List Item) (command : CommandWord) (after : List Item) : List String :=
  before.flatMap Item.words ++ command.word :: after.flatMap Item.words

/-- The items can be given to the command, each once and in these places. -/
structure Arranged (command : CommandWord) (before after : List Item) : Prop where
  isGlobal : ∀ item ∈ before, item.IsGlobal
  fits : ∀ item ∈ after, item.Fits command
  once : ((before ++ after).map Item.option).Nodup
  valid : ∀ item ∈ before ++ after, item.Valid

/-! ### What texts ask for -/

/-- What a scope has been given, if it is given these texts for its parameters. -/
def Given.ofTexts (verbose json : Bool) (text? : Parameter → Option String) : Given where
  verbose
  json
  simulate := (text? .simulate).bind fun text => (Simulation.parse text).toOption
  durationMs := (text? .durationMs).bind (Text.unsigned? Text.bound64)
  periodMs := (text? .periodMs).bind (Text.unsigned? Text.bound64)
  maxRecords := (text? .maxRecords).bind (Text.unsigned? Text.bound64)
  name := text? .name

/-- What the items ask of the command: a parameter has the value that an item gives, else that of
its variable, else its default. -/
def asked (lookup : String → Option String) (command : CommandWord) (items : List Item) : Request :=
  let text? (p : Parameter) := (textIn items p).or (lookup p.variableName)
  let number? (p : Parameter) := (text? p).bind (Text.unsigned? Text.bound64)
  let options : RecordingOptions :=
    { durationMs := (number? .durationMs).getD 0
      periodMs := number? .periodMs
      maxRecords := number? .maxRecords
      name := text? .name }
  { verbose := verboseIn items
    simulation := (text? .simulate).bind fun text => (Simulation.parse text).toOption
    command := match command with
      | .sample => some (.sample (jsonIn items))
      | .record => some (.record (jsonIn items) options)
      | .verify => some (.verify options) }

section texts

variable {verbose json : Bool} {text? : Parameter → Option String} {p : Parameter} {text : String}

/-- Every text is one that its parameter can take. -/
def AllTaken (text? : Parameter → Option String) : Prop :=
  ∀ p text, text? p = some text → p.takes text = true

private theorem Given.holds_ofTexts (h : AllTaken text?) (p : Parameter) :
    (ofTexts verbose json text?).holds p = (text? p).isSome := by
  have hp := h p
  cases ht : text? p with
  | none => cases p <;> simp [holds, ofTexts, ht]
  | some text =>
    have htakes := hp text ht
    cases p with
    | name => simp [holds, ofTexts, ht]
    | _ => simpa [holds, ofTexts, ht, Parameter.takes] using htakes

/-- A text that can be taken is added to the others. -/
theorem Given.put?_ofTexts (h : p.takes text = true) :
    (ofTexts verbose json text?).put? p text =
      some (ofTexts verbose json fun q => if q = p then some text else text? q) := by
  cases p with
  | simulate =>
    obtain ⟨value, hv⟩ := Option.isSome_iff_exists.mp h
    simp [put?, ofTexts, hv]
  | durationMs | periodMs | maxRecords =>
    obtain ⟨value, hv⟩ := Option.isSome_iff_exists.mp h
    simp [put?, ofTexts, hv]
  | name => simp [put?, ofTexts]

private theorem Given.accept_ofTexts (hall : AllTaken text?) (hnone : text? p = none)
    (h : p.takes text = true) :
    (ofTexts verbose json text?).accept p text =
      .ok (ofTexts verbose json fun q => if q = p then some text else text? q) := by
  rw [accept, holds_ofTexts hall, hnone, put?_ofTexts h]
  rfl

end texts

/-! ### What items ask for -/

/-- What a scope has been given by the items. -/
def givenBy (items : List Item) : Given :=
  .ofTexts (verboseIn items) (jsonIn items) (textIn items)

section items

variable {items : List Item} {p : Parameter} {text : String}

private theorem mem_of_textIn (h : textIn items p = some text) : .value p text ∈ items := by
  obtain ⟨item, hmem, hitem⟩ := List.exists_of_findSome?_eq_some h
  cases item with
  | verbose | json => cases hitem
  | value q given =>
    simp only [Option.ite_none_right_eq_some, Option.some.injEq] at hitem
    obtain ⟨rfl, rfl⟩ := hitem
    exact hmem

private theorem textIn_eq_none (h : .inr p ∉ items.map Item.option) : textIn items p = none := by
  by_contra hne
  obtain ⟨text, ht⟩ := Option.ne_none_iff_exists'.mp hne
  exact h (List.mem_map.mpr ⟨_, mem_of_textIn ht, rfl⟩)

private theorem allTaken_textIn (h : ∀ item ∈ items, item.Valid) : AllTaken (textIn items) :=
  fun _ _ ht => (h _ (mem_of_textIn ht)).1

private theorem textIn_concat (item : Item) (q : Parameter) :
    textIn (items ++ [item]) q = (textIn items q).or (textIn [item] q) := by
  rw [textIn, List.findSome?_append]
  rfl

private theorem verboseIn_eq_false (h : .inl .verbose ∉ items.map Item.option) :
    verboseIn items = false := by
  simpa [verboseIn] using h

private theorem jsonIn_eq_false (h : .inl .json ∉ items.map Item.option) :
    jsonIn items = false := by
  simpa [jsonIn] using h

private theorem givenBy_verbose (items : List Item) (short : Bool) :
    givenBy (items ++ [.verbose short]) = { givenBy items with verbose := true } := by
  have ht : textIn (items ++ [.verbose short]) = textIn items := by
    funext q
    rw [textIn_concat]
    exact Option.or_none
  simp [givenBy, ht, verboseIn, jsonIn, Item.option, Given.ofTexts]

private theorem givenBy_json (items : List Item) :
    givenBy (items ++ [.json]) = { givenBy items with json := true } := by
  have ht : textIn (items ++ [.json]) = textIn items := by
    funext q
    rw [textIn_concat]
    exact Option.or_none
  simp [givenBy, ht, verboseIn, jsonIn, Item.option, Given.ofTexts]

/-- A value for a parameter that has none is accepted. -/
theorem accept_givenBy (hall : ∀ item ∈ items, item.Valid)
    (hnew : .inr p ∉ items.map Item.option) (h : p.takes text = true) :
    (givenBy items).accept p text = .ok (givenBy (items ++ [.value p text])) := by
  have hnone := textIn_eq_none hnew
  have ht : textIn (items ++ [.value p text]) =
      fun q => if q = p then some text else textIn items q := by
    funext q
    rw [textIn_concat]
    by_cases hq : q = p
    · rw [hq, hnone, if_pos rfl]
      simp [textIn]
    · rw [if_neg hq]
      simp [textIn, Ne.symm hq]
  rw [givenBy, Given.accept_ofTexts (allTaken_textIn hall) hnone h, givenBy, ht]
  simp [verboseIn, jsonIn, Item.option]

end items

/-! ### Words of an item -/

private theorem shape_of_plain {text : String} (h : text.toList.head? ≠ some '-') :
    Shape.of text = .plain := by
  unfold Shape.of
  split
  · next ht => simp [ht] at h
  · next ht => simp [ht] at h
  · next ht => simp [ht] at h
  · rfl

private theorem Parameter.shape_word (p : Parameter) :
    Shape.of ("--" ++ p.word) = .long p.word.toList := by
  cases p <;> decide

private theorem Parameter.splitAtFirst?_word (p : Parameter) :
    Text.splitAtFirst? '=' p.word.toList = none := by
  cases p <;> decide

private theorem Scope.find?_parameter {scope : Scope} {p : Parameter} (h : p ∈ scope.parameters) :
    scope.parameters.find? (·.word == p.word) = some p := by
  cases scope with
  | outer => cases p <;> first | rfl | cases List.mem_singleton.mp h
  | inner command =>
    cases command with
    | sample => cases p <;> first | rfl | cases List.mem_singleton.mp h
    | record => cases p <;> rfl
    | verify => cases p <;> rfl

/-- A parameter that the scope knows waits for its value. -/
theorem Scan.long_parameter {s : Scan} {given : Given} {scope : Scope} {p : Parameter}
    (hs : s.settle = .ok given) (hp : p ∈ scope.parameters) :
    s.long scope p.word.toList = .ok { given, waiting := .value p } := by
  rw [long, p.splitAtFirst?_word]
  simp only [String.ofList_toList, Scope.find?_parameter hp, parameter, hs]
  rfl

private theorem Scan.switch_of_turnOn {s : Scan} {given given' : Given} {scope : Scope}
    {long : Bool} {switch : Switch} (hs : s.settle = .ok given)
    (hon : given.turnOn (scope.page long) switch = .ok given') :
    s.switch scope long switch = .ok { given := given' } := by
  rw [Scan.switch, hs]
  simp only [bind, Except.bind, hon]
  rfl

/-- A switch by its long name, and the switch for more output also by its letter. -/
theorem Scan.long_switch {s : Scan} {given given' : Given} {scope : Scope} {switch : Switch}
    (hs : s.settle = .ok given) (hk : switch ∈ scope.switches)
    (hon : given.turnOn (scope.page true) switch = .ok given') :
    s.long scope switch.word.toList = .ok { given := given' } := by
  have hsplit : Text.splitAtFirst? '=' switch.word.toList = none := by cases switch <;> decide
  have hnone : scope.parameters.find? (·.word == switch.word) = none := by
    cases scope with
    | outer => cases switch <;> rfl
    | inner command => cases command <;> cases switch <;> rfl
  have hfind : scope.switches.find? (·.word == switch.word) = some switch := by
    revert hk
    cases scope with
    | outer => cases switch <;> decide
    | inner command => cases command <;> cases switch <;> decide
  rw [long, hsplit]
  simp only [String.ofList_toList, hnone, hfind]
  exact switch_of_turnOn hs hon

private theorem Scan.letters_verbose {s : Scan} {given given' : Given} {scope : Scope}
    (hs : s.settle = .ok given) (hon : given.turnOn (scope.page false) .verbose = .ok given') :
    s.letters scope ['v'] = .ok { given := given' } := by
  have hfind : scope.switches.find? (·.letter? == some 'v') = some .verbose := by
    cases scope with
    | outer => rfl
    | inner command => cases command <;> rfl
  simp only [letters, hfind, switch_of_turnOn hs hon]
  rfl

/-! ### Scans of items -/

section scans

variable {scope : Scope} {s s' : Scan} {items : List Item} {item : Item}

private theorem scan_long {word : String} {body : List Char} (hw : Shape.of word = .long body)
    (h : s.long scope body = .ok s') (rest : List String) :
    scan scope s (word :: rest) = scan scope s' rest := by
  rw [scan.eq_def]
  simp only [hw, h]
  rfl

private theorem scan_letters {word : String} {letters : List Char}
    (hw : Shape.of word = .letters letters)
    (h : s.letters scope letters = .ok s') (rest : List String) :
    scan scope s (word :: rest) = scan scope s' rest := by
  rw [scan.eq_def]
  simp only [hw, h]
  rfl

/-- A plain word is the value of the parameter that waits for one. -/
theorem scan_value {text : String} (hw : Shape.of text = .plain) {p : Parameter}
    (hp : s.waiting = .value p) (rest : List String) :
    scan scope s (text :: rest) = scan scope { s with waiting := .check p text } rest := by
  rw [scan.eq_def]
  simp only [hw, hp]

/-- One item is scanned: what waits is settled, and the item is added to what was given. -/
theorem scan_item (hs : s.settle = .ok (givenBy items)) (hknown : item.KnownIn scope)
    (hvalid : ∀ i ∈ items ++ [item], i.Valid) (hnew : item.option ∉ items.map Item.option)
    (rest : List String) :
    ∃ s', scan scope s (item.words ++ rest) = scan scope s' rest ∧
      s'.settle = .ok (givenBy (items ++ [item])) := by
  cases item with
  | verbose short =>
    have hoff : (givenBy items).verbose = false := verboseIn_eq_false hnew
    have hon (page : HelpPage) : (givenBy items).turnOn page .verbose =
        .ok (givenBy (items ++ [.verbose short])) := by
      rw [givenBy_verbose, Given.turnOn, hoff]
      rfl
    refine ⟨{ given := givenBy (items ++ [.verbose short]) }, ?_, rfl⟩
    cases short with
    | false => exact scan_long (by decide) (Scan.long_switch hs hknown (hon _)) rest
    | true => exact scan_letters (by decide) (Scan.letters_verbose hs (hon _)) rest
  | json =>
    have hoff : (givenBy items).json = false := jsonIn_eq_false hnew
    have hon (page : HelpPage) : (givenBy items).turnOn page .json =
        .ok (givenBy (items ++ [.json])) := by
      rw [givenBy_json, Given.turnOn, hoff]
      rfl
    exact ⟨{ given := givenBy (items ++ [.json]) },
      scan_long (by decide) (Scan.long_switch hs hknown (hon _)) rest, rfl⟩
  | value p text =>
    obtain ⟨htakes, hplain⟩ : p.takes text = true ∧ text.toList.head? ≠ some '-' :=
      hvalid (.value p text) (by simp)
    refine ⟨{ given := givenBy items, waiting := .check p text }, ?_, ?_⟩
    · change scan scope s (("--" ++ p.word) :: text :: rest) = _
      rw [scan_long p.shape_word (Scan.long_parameter hs hknown),
        scan_value (shape_of_plain hplain) rfl]
    · exact accept_givenBy (fun i hi => hvalid i (List.mem_append_left _ hi)) hnew htakes

/-- The items of a scope are scanned one after the other, whatever follows. -/
theorem scan_items {more : List Item} (hs : s.settle = .ok (givenBy items))
    (hknown : ∀ i ∈ more, i.KnownIn scope) (hvalid : ∀ i ∈ items ++ more, i.Valid)
    (honce : ((items ++ more).map Item.option).Nodup) (rest : List String) :
    ∃ s', scan scope s (more.flatMap Item.words ++ rest) = scan scope s' rest ∧
      s'.settle = .ok (givenBy (items ++ more)) := by
  induction more generalizing s items with
  | nil => exact ⟨s, rfl, by rwa [List.append_nil]⟩
  | cons item more ih =>
    have hsplit : items ++ item :: more = items ++ [item] ++ more := by simp
    rw [hsplit] at hvalid honce
    have hnew : item.option ∉ items.map Item.option := by
      intro hmem
      rw [List.map_append, List.map_append, List.nodup_append] at honce
      have hdis := (List.nodup_append.mp honce.1).2.2
      exact hdis _ hmem _ (by simp) rfl
    obtain ⟨s₁, hscan, hsettle⟩ := scan_item hs (hknown item List.mem_cons_self)
      (fun i hi => hvalid i (List.mem_append_left _ hi)) hnew (more.flatMap Item.words ++ rest)
    obtain ⟨s₂, hscan', hsettle'⟩ :=
      ih hsettle (fun i hi => hknown i (List.mem_cons_of_mem item hi)) hvalid honce
    refine ⟨s₂, ?_, hsplit ▸ hsettle'⟩
    rw [List.flatMap_cons, List.append_assoc, hscan, hscan']

private theorem scan_start (hknown : ∀ i ∈ items, i.KnownIn scope) (hvalid : ∀ i ∈ items, i.Valid)
    (honce : (items.map Item.option).Nodup) (rest : List String) :
    ∃ s, scan scope {} (items.flatMap Item.words ++ rest) = scan scope s rest ∧
      s.settle = .ok (givenBy items) := by
  have hstart : ({} : Scan).settle = .ok (givenBy []) := rfl
  exact scan_items hstart hknown hvalid honce rest

/-- The command ends the outer scope. -/
theorem scan_command {given : Given} (hs : s.settle = .ok given) (command : CommandWord)
    (words : List String) :
    scan .outer s (command.word :: words) = .ok (s, some (command, words)) := by
  have hshape : Shape.of command.word = .plain := by cases command <;> decide
  have hhelp : (command.word == helpWord) = false := by cases command <;> decide
  have hcommand : CommandWord.ofWord? command.word = some command := by cases command <;> rfl
  cases hw : s.waiting with
  | value p => simp [Scan.settle, hw] at hs
  | nothing | check =>
    rw [scan.eq_def]
    simp [hshape, hw, hhelp, hcommand]

end scans

/-! ### Variables of the environment -/

/-- The texts of parameters, with those of the variables where there is none. -/
def completedBy (lookup : String → Option String) (parameters : List Parameter)
    (text? : Parameter → Option String) (p : Parameter) : Option String :=
  (text? p).or (if p ∈ parameters then lookup p.variableName else none)

/-- The variable of the parameter is not set, or the parameter can take its value. -/
def VariableFits (lookup : String → Option String) (p : Parameter) : Prop :=
  ∀ text, lookup p.variableName = some text → p.takes text = true

section environment

variable {lookup : String → Option String} {verbose json : Bool}
  {text? : Parameter → Option String}

private theorem completedBy_cons (p : Parameter) (parameters : List Parameter) :
    completedBy lookup (p :: parameters) text? =
      completedBy lookup parameters (completedBy lookup [p] text?) := by
  funext q
  by_cases hq : q = p
  · subst hq
    cases ht : text? q <;> cases hl : lookup q.variableName <;> simp [completedBy, ht, hl]
  · simp [completedBy, hq]

private theorem allTaken_completedBy {parameters : List Parameter} (hall : AllTaken text?)
    (h : ∀ p ∈ parameters, text? p = none → VariableFits lookup p) :
    AllTaken (completedBy lookup parameters text?) := by
  intro p text ht
  cases hgiven : text? p with
  | some given =>
    rw [completedBy, hgiven, Option.some_or] at ht
    exact hall p text (hgiven.trans ht)
  | none =>
    rw [completedBy, hgiven, Option.none_or, Option.ite_none_right_eq_some] at ht
    exact h p ht.1 hgiven text ht.2

private theorem completedBy_self {p : Parameter}
    (h : (text? p).isSome ∨ lookup p.variableName = none) :
    completedBy lookup [p] text? = text? := by
  funext q
  by_cases hq : q = p
  · subst hq
    rcases h with h | h
    · obtain ⟨text, ht⟩ := Option.isSome_iff_exists.mp h
      simp [completedBy, ht]
    · simp [completedBy, h]
  · simp [completedBy, hq]

private theorem completedBy_new {p : Parameter} {text : String} (hnone : text? p = none)
    (h : lookup p.variableName = some text) :
    completedBy lookup [p] text? = fun q => if q = p then some text else text? q := by
  funext q
  by_cases hq : q = p
  · subst hq
    simp [completedBy, hnone, h]
  · simp [completedBy, hq]

/-- The parameters that are not given are taken from their variables. -/
theorem complete_ofTexts (scope : Scope) (hall : AllTaken text?)
    (h : ∀ p ∈ scope.parameters, text? p = none → VariableFits lookup p) :
    (Given.ofTexts verbose json text?).complete scope lookup =
      .ok (.ofTexts verbose json (completedBy lookup scope.parameters text?)) := by
  unfold Given.complete
  generalize scope.parameters = parameters at h ⊢
  induction parameters generalizing text? with
  | nil =>
    have hself : completedBy lookup [] text? = text? := by
      funext p
      simp [completedBy]
    rw [hself]
    rfl
  | cons p parameters ih =>
    have hall' : AllTaken (completedBy lookup [p] text?) :=
      allTaken_completedBy hall fun q hq => h q (by simp [List.mem_singleton.mp hq])
    have hrest := ih hall' fun q hq hnone =>
      h q (List.mem_cons_of_mem p hq) (Option.or_eq_none_iff.mp hnone).1
    rw [List.foldlM_cons, completedBy_cons, ← hrest]
    -- It is left to see that the first parameter is given or else taken from its variable.
    cases hl : lookup p.variableName with
    | none =>
      rw [completedBy_self (.inr hl)]
      rfl
    | some text =>
      cases hgiven : text? p with
      | some given =>
        have hsome : (text? p).isSome = true := by rw [hgiven]; rfl
        simp only [Given.holds_ofTexts hall, hsome, completedBy_self (.inl hsome)]
        rfl
      | none =>
        have htakes := h p List.mem_cons_self hgiven text hl
        simp only [Given.holds_ofTexts hall, hgiven, Given.accept_ofTexts hall hgiven htakes,
          completedBy_new hgiven hl]
        rfl

end environment

/-! ### Main statement -/

section lines

variable {lookup : String → Option String} {command : CommandWord} {before after : List Item}

private theorem textIn_append (p : Parameter) :
    textIn (before ++ after) p = (textIn before p).or (textIn after p) :=
  List.findSome?_append

/-- Before the command only one parameter has a value. -/
theorem textIn_of_isGlobal {items : List Item} (h : ∀ item ∈ items, item.IsGlobal) {p : Parameter}
    (hp : p ≠ .simulate) : textIn items p = none := by
  by_contra hne
  obtain ⟨text, ht⟩ := Option.ne_none_iff_exists'.mp hne
  have hglobal := h _ (mem_of_textIn ht)
  cases p with
  | simulate => exact hp rfl
  | _ => cases hglobal

private theorem jsonIn_of_isGlobal {items : List Item} (h : ∀ item ∈ items, item.IsGlobal) :
    jsonIn items = false := by
  rw [jsonIn, List.any_eq_false]
  intro item hmem
  have hglobal := h item hmem
  cases item with
  | json => cases hglobal
  | verbose | value => simp [Item.option]

/-- A text for a parameter that stands on one side of the command does not stand on the other. -/
theorem Arranged.textIn_eq_none (h : Arranged command before after) {p : Parameter} {text : String}
    (ht : textIn after p = some text) : textIn before p = none := by
  have honce := h.once
  rw [List.map_append, List.nodup_append] at honce
  apply CommandLine.textIn_eq_none
  intro hmem
  exact honce.2.2 _ hmem _ (List.mem_map.mpr ⟨_, mem_of_textIn ht, rfl⟩) rfl

/-- Of the texts on the two sides of the command and in the environment the first is taken. -/
theorem Arranged.simulate_eq (h : Arranged command before after) (text? : Option String) :
    let read := fun text => (Simulation.parse text).toOption
    ((textIn after .simulate).bind read <|> (textIn before .simulate).bind read <|>
      ((textIn after .simulate).or text?).bind read) =
      ((textIn (before ++ after) .simulate).or text?).bind read := by
  intro read
  have hread {text : String} (hmem : .value .simulate text ∈ before ++ after) :
      ∃ value, read text = some value :=
    Option.isSome_iff_exists.mp (h.valid (.value .simulate text) hmem).1
  rw [textIn_append]
  cases ha : textIn after .simulate with
  | some text =>
    obtain ⟨value, hv⟩ := hread (List.mem_append_right _ (mem_of_textIn ha))
    simp [h.textIn_eq_none ha, hv]
  | none =>
    cases hb : textIn before .simulate with
    | some text =>
      obtain ⟨value, hv⟩ := hread (List.mem_append_left _ (mem_of_textIn hb))
      simp [hv]
    | none => simp

/-- The texts that a command finds for its own parameters. -/
theorem Arranged.completedBy_eq (h : Arranged command before after) {p : Parameter}
    (hp : p ≠ .simulate) (hknown : p ∈ (Scope.inner command).parameters) :
    completedBy lookup (Scope.inner command).parameters (textIn after) p =
      (textIn (before ++ after) p).or (lookup p.variableName) := by
  rw [completedBy, if_pos hknown, textIn_append, textIn_of_isGlobal h.isGlobal hp, Option.none_or]

/-- The command with what it finds for its own parameters is the one that the items ask for. -/
theorem Arranged.command_eq (h : Arranged command before after) :
    some ((Given.ofTexts (verboseIn after) (jsonIn after)
      (completedBy lookup (Scope.inner command).parameters (textIn after))).command command) =
    (asked lookup command (before ++ after)).command := by
  have hjson : jsonIn (before ++ after) = jsonIn after := by
    rw [jsonIn, List.any_append]
    change (jsonIn before || jsonIn after) = _
    rw [jsonIn_of_isGlobal h.isGlobal, Bool.false_or]
  have htext (p : Parameter) (hp : p ≠ .simulate)
      (hknown : p ∈ (Scope.inner command).parameters) :
      completedBy lookup (Scope.inner command).parameters (textIn after) p =
        (textIn (before ++ after) p).or (lookup p.variableName) :=
    h.completedBy_eq hp hknown
  cases command with
  | sample => simp only [Given.command, Given.ofTexts, asked, hjson]
  | record =>
    simp only [Given.command, Given.options, Given.ofTexts, asked, hjson,
      htext .durationMs (by decide) (by decide), htext .periodMs (by decide) (by decide),
      htext .maxRecords (by decide) (by decide), htext .name (by decide) (by decide)]
  | verify =>
    simp only [Given.command, Given.options, Given.ofTexts, asked,
      htext .durationMs (by decide) (by decide), htext .periodMs (by decide) (by decide),
      htext .maxRecords (by decide) (by decide), htext .name (by decide) (by decide)]

/-- The request that a line with arranged items makes. -/
theorem parse_line (h : Arranged command before after)
    (henv : ∀ p, p = .simulate ∨ textIn (before ++ after) p = none → VariableFits lookup p) :
    parse lookup (line before command after) = .ok (asked lookup command (before ++ after)) := by
  have hvalidBefore : ∀ i ∈ before, i.Valid := fun i hi => h.valid i (List.mem_append_left _ hi)
  have hvalidAfter : ∀ i ∈ after, i.Valid := fun i hi => h.valid i (List.mem_append_right _ hi)
  have honce := h.once
  rw [List.map_append, List.nodup_append] at honce
  obtain ⟨honceBefore, honceAfter, -⟩ := honce
  obtain ⟨outer, hscan, houter⟩ := scan_start
    (fun i hi => Item.knownIn_outer (h.isGlobal i hi)) hvalidBefore honceBefore
    (command.word :: after.flatMap Item.words)
  obtain ⟨inner, hscan', hinner⟩ := scan_start
    (fun i hi => Item.knownIn_inner (h.fits i hi)) hvalidAfter honceAfter []
  rw [scan_command houter] at hscan
  rw [List.append_nil] at hscan'
  have hcompleted : (givenBy after).complete (.inner command) lookup = .ok (.ofTexts
      (verboseIn after) (jsonIn after)
      (completedBy lookup (Scope.inner command).parameters (textIn after))) := by
    refine complete_ofTexts _ (allTaken_textIn hvalidAfter) fun p _ hnone => henv p ?_
    by_cases hp : p = .simulate
    · exact .inl hp
    · rw [textIn_append, textIn_of_isGlobal h.isGlobal hp, Option.none_or]
      exact .inr hnone
  have haround : (givenBy before).complete .outer lookup = .ok (.ofTexts
      (verboseIn before) (jsonIn before)
      (completedBy lookup Scope.outer.parameters (textIn before))) :=
    complete_ofTexts _ (allTaken_textIn hvalidBefore) fun p hp _ =>
      henv p (.inl (List.mem_singleton.mp hp))
  rw [parse, line, hscan]
  simp only [bind, Except.bind, hscan', scan, hinner, hcompleted, houter, haround]
  have hverbose : ((givenBy after).verbose || (givenBy before).verbose) =
      verboseIn (before ++ after) := by
    rw [verboseIn, List.any_append, Bool.or_comm]
    rfl
  have hknown : Parameter.simulate ∈ (Scope.inner command).parameters := by
    cases command <;> decide
  have hsimulate : (Given.ofTexts (verboseIn after) (jsonIn after) (completedBy lookup
        (Scope.inner command).parameters (textIn after))).simulate =
      ((textIn after .simulate).or (lookup Parameter.simulate.variableName)).bind fun text =>
        (Simulation.parse text).toOption := by
    rw [Given.ofTexts, completedBy, if_pos hknown]
  rw [hverbose, hsimulate, h.command_eq]
  exact congrArg (fun simulation => Except.ok (Request.mk _ simulation _))
    (h.simulate_eq (lookup Parameter.simulate.variableName))

end lines

section orders

variable {items items' : List Item}

private theorem Item.option_long (item : Item) : item.long.option = item.option := by
  cases item <;> rfl

/-- What the items give for a parameter does not depend on their order. -/
theorem textIn_eq_some_iff (honce : (items.map Item.option).Nodup) {p : Parameter}
    {text : String} : textIn items p = some text ↔ .value p text ∈ items := by
  refine ⟨mem_of_textIn, fun hmem => ?_⟩
  cases ht : textIn items p with
  | none =>
    have hnone := List.findSome?_eq_none_iff.mp ht _ hmem
    simp at hnone
  | some given =>
    have hsame : Item.value p given = .value p text :=
      List.inj_on_of_nodup_map honce (mem_of_textIn ht) hmem rfl
    cases hsame
    rfl

private theorem value_mem_map_long (items : List Item) {p : Parameter} {text : String} :
    .value p text ∈ items.map Item.long ↔ .value p text ∈ items := by
  rw [List.mem_map]
  constructor
  · rintro ⟨item, hmem, hlong⟩
    cases item with
    | verbose | json => cases hlong
    | value q given => rwa [← hlong]
  · exact fun hmem => ⟨_, hmem, rfl⟩

private theorem textIn_of_perm (honce : (items.map Item.option).Nodup)
    (honce' : (items'.map Item.option).Nodup)
    (h : (items'.map Item.long).Perm (items.map Item.long)) : textIn items' = textIn items := by
  funext p
  apply Option.ext
  intro text
  rw [textIn_eq_some_iff honce', textIn_eq_some_iff honce, ← value_mem_map_long items',
    ← value_mem_map_long items, h.mem_iff]

private theorem any_option_of_perm (h : (items'.map Item.long).Perm (items.map Item.long))
    (option : Switch ⊕ Parameter) :
    (items'.any fun item => item.option = option) = items.any fun item => item.option = option := by
  have hlong (items : List Item) : (items.any fun item => item.option = option) =
      (items.map Item.long).any fun item => item.option = option := by
    simp only [List.any_map, Function.comp_def, Item.option_long]
  rw [hlong items', hlong items]
  exact h.any_eq

/-- Items ask for the same in every order, and with switches by either name. -/
theorem asked_of_perm (honce : (items.map Item.option).Nodup)
    (honce' : (items'.map Item.option).Nodup)
    (h : (items'.map Item.long).Perm (items.map Item.long)) (lookup : String → Option String)
    (command : CommandWord) : asked lookup command items' = asked lookup command items := by
  have htext := textIn_of_perm honce honce' h
  have hverbose : verboseIn items' = verboseIn items := any_option_of_perm h _
  have hjson : jsonIn items' = jsonIn items := any_option_of_perm h _
  simp only [asked, htext, hverbose, hjson]

/-- The variables of the parameters that items give do not matter. -/
theorem asked_of_lookup {lookup lookup' : String → Option String}
    (h : ∀ p, textIn items p = none → lookup' p.variableName = lookup p.variableName)
    (command : CommandWord) : asked lookup' command items = asked lookup command items := by
  have htext (p : Parameter) : (textIn items p).or (lookup' p.variableName) =
      (textIn items p).or (lookup p.variableName) := by
    cases ht : textIn items p with
    | none => rw [h p ht]
    | some text => rfl
  simp only [asked, htext]

end orders

/-- A line whose items fit the command and are given once, with values that their parameters can
take, makes the request that its items ask for. No order of the items, and no place before or after
the command of those that may stand on both sides, makes another request. A parameter that an item
gives does not depend on its variable; one that no item gives has the value of its variable, if that
is set, and its default otherwise. -/
theorem asked_in_any_arrangement (lookup : String → Option String) (command : CommandWord)
    (before after : List Item) (h : Arranged command before after)
    (henv : ∀ p, p = .simulate ∨ textIn (before ++ after) p = none → VariableFits lookup p) :
    parse lookup (line before command after) = .ok (asked lookup command (before ++ after)) ∧
    (∀ before' after', Arranged command before' after' →
      ((before' ++ after').map Item.long).Perm ((before ++ after).map Item.long) →
      parse lookup (line before' command after') = parse lookup (line before command after)) ∧
    ∀ lookup' : String → Option String, VariableFits lookup' .simulate →
      (∀ p, textIn (before ++ after) p = none →
        lookup' p.variableName = lookup p.variableName) →
      parse lookup' (line before command after) = parse lookup (line before command after) := by
  have hline := parse_line h henv
  refine ⟨hline, ?_, ?_⟩
  · intro before' after' h' hperm
    have htext := textIn_of_perm h.once h'.once hperm
    have hline' := parse_line h' fun p hp => henv p (by rwa [htext] at hp)
    rw [hline, hline', asked_of_perm h.once h'.once hperm]
  · intro lookup' hsimulate hsame
    have hline' : parse lookup' (line before command after) =
        .ok (asked lookup' command (before ++ after)) := by
      refine parse_line h fun p hp => ?_
      rcases hp with rfl | hnone
      · exact hsimulate
      · intro text ht
        exact henv p (.inr hnone) text (by rw [← hsame p hnone, ht])
    rw [hline, hline', asked_of_lookup hsame]

/-- An environment with a period, and with a duration that is no number. -/
def mixedVariables (name : String) : Option String :=
  if name = "CPUREC_PERIOD_MS" then some "20"
  else if name = "CPUREC_DURATION_MS" then some "soon"
  else none

/-- The duration that is given hides a variable that is no number, the period comes from its
variable, and the switch and the simulation may change sides. -/
theorem given_duration_hides_variable :
    let before : List Item := [.value .simulate "unsupported"]
    let after : List Item := [.value .durationMs "50", .verbose true]
    (Arranged .record before after ∧
      ∀ p, p = .simulate ∨ textIn (before ++ after) p = none → VariableFits mixedVariables p) ∧
    parse mixedVariables ["--simulate", "unsupported", "record", "--duration-ms", "50", "-v"] =
      .ok { verbose := true, simulation := some .unsupported,
            command := some (.record false { durationMs := 50, periodMs := some 20 }) } ∧
    parse mixedVariables ["--verbose", "record", "--duration-ms", "50", "--simulate",
        "unsupported"] =
      parse mixedVariables
        ["--simulate", "unsupported", "record", "--duration-ms", "50", "-v"] := by
  intro before after
  have hsimulate : Parameter.simulate.takes "unsupported" = true := by decide +kernel
  have hduration : Parameter.durationMs.takes "50" = true := by decide +kernel
  have h : Arranged .record before after :=
    { isGlobal := by simp [before, Item.IsGlobal]
      fits := by simp [after, Item.Fits]
      once := by decide
      valid := by simp [before, after, hsimulate, hduration, Item.Valid] }
  have h' : Arranged .record [.verbose false]
      [.value .durationMs "50", .value .simulate "unsupported"] :=
    { isGlobal := by simp [Item.IsGlobal]
      fits := by simp [Item.Fits]
      once := by decide
      valid := by simp [hsimulate, hduration, Item.Valid] }
  have henv : ∀ p, p = .simulate ∨ textIn (before ++ after) p = none →
      VariableFits mixedVariables p := by
    intro p hp text ht
    cases p with
    | durationMs => exact absurd hp (by decide)
    | periodMs =>
      cases ht
      decide +kernel
    | simulate | maxRecords | name => cases ht
  obtain ⟨hline, horder, -⟩ :=
    asked_in_any_arrangement mixedVariables .record before after h henv
  refine ⟨⟨h, henv⟩, hline.trans (by decide +kernel), ?_⟩
  exact horder [.verbose false] [.value .durationMs "50", .value .simulate "unsupported"] h'
    (by decide)

end CpuCensus.CommandLine
