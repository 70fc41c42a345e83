import LinkCleaner.Options
import LinkCleaner.Rules.Compile
import LinkCleaner.Url.Parse

/-!
Cleaning by rules. First a single sweep over the providers follows redirections; then each provider
that covers the URL takes out parameters and deletes parts of the text.
-/

namespace LinkCleaner.Rules

/-- The working URL, and the last provider that redirected. -/
structure Redirected where
  url : Url
  source : Option Text := none

/-- The URL that a redirection leads to: the first group of its match, decoded. -/
def target? (p : Pattern) (u : Url) : Option Url :=
  if p.groups = 0 then none
  else
    match (p.search u.href).bind fun f => f.group? u.href 1 with
    | none | some [] => none
    | some t => Url.parse? (Percent.decodeIfWellFormed t)

def redirectBy (name : Text) (r : Redirected) (p : Pattern) : Redirected :=
  match target? p r.url with
  | none => r
  | some v => { url := v, source := some name }

def redirectThrough (r : Redirected) (p : Provider) : Redirected :=
  if p.appliesTo r.url.href then p.redirections.foldl (redirectBy p.name) r else r

/-- One forward sweep; no provider is visited twice. -/
def redirect (rs : Ruleset) (u : Url) : Redirected := rs.foldl redirectThrough { url := u }

/-- Whether an entry is about a parameter. Patterns are written both as a name and as a name with
an equals sign. -/
def Entry.hits (name : Text) : Entry → Bool
  | .literal n => n == name
  | .pattern p => p.occurs name || p.occurs (name ++ ['='])

/-- The entries of a provider that apply. -/
def Provider.entries (o : CleaningOptions) (p : Provider) : List Entry :=
  if o.allowReferral then p.rules else p.rules ++ p.referralMarketing

/-- Whether a provider takes out a parameter. -/
def Provider.removes (o : CleaningOptions) (p : Provider) (key : Text) : Bool :=
  !o.keep.contains (Text.lower key) && (p.entries o).any (Entry.hits (Text.lower key))

theorem Provider.removes_of_keep {o : CleaningOptions} (p : Provider) {key : Text}
    (h : Text.lower key ∈ o.keep) : p.removes o key = false := by
  simp [removes, h]

/-- The working URL, and whether it was changed. -/
structure Cleaning where
  url : Url
  changed : Bool := false

def stripParams (o : CleaningOptions) (p : Provider) (c : Cleaning) : Cleaning :=
  if c.url.keys.any (p.removes o) then { url := c.url.without (p.removes o), changed := true }
  else c

/-- Whether every parameter to keep that one URL has is in the other. -/
def keepsAll (o : CleaningOptions) (u v : Url) : Bool :=
  u.keys.all fun k =>
    !o.keep.contains (Text.lower k) || (v.keys.map Text.lower).contains (Text.lower k)

/-- Deletes what a raw rule matches, if a URL is left that has lost nothing that is to be kept. -/
def deleteBy (o : CleaningOptions) (c : Cleaning) (p : Pattern) : Cleaning :=
  let after := p.delete c.url.href
  if after = c.url.href then c
  else
    match Url.parse? after with
    | none => c
    | some v => if keepsAll o c.url v then { url := v, changed := true } else c

def cleanBy (o : CleaningOptions) (c : Cleaning) (p : Provider) : Cleaning :=
  if p.appliesTo c.url.href then p.rawRules.foldl (deleteBy o) (stripParams o p c) else c

/-- Cleans a URL by rules. Without rules, and for a text that is no URL, it comes back as it is. -/
def apply (rules : Option Ruleset) (raw : Text) (o : CleaningOptions) : CleanResult :=
  match rules with
  | none => .refused raw .rulesUnavailable
  | some rs =>
    match Url.parse raw with
    | .error _ => .refused raw .invalidUrl
    | .ok u =>
      let r := redirect rs u
      let c := rs.foldl (cleanBy o) { url := r.url, changed := r.source.isSome }
      { url := c.url.serialize, changed := c.changed, unwrappedFrom := r.source }

end LinkCleaner.Rules
