import ListingRules.Text.Basic

namespace ListingRules

structure Greeting where
  welcome : Text
  system : Text
  deriving DecidableEq, Repr

inductive ConditionFunction where
  | systContains
  | welcomeContains
  | regExpInSyst
  | regExpInWelcome
  deriving DecidableEq, Repr

namespace ConditionFunction

def name : ConditionFunction → String
  | systContains => "syst_contains"
  | welcomeContains => "welcome_contains"
  | regExpInSyst => "reg_exp_in_syst"
  | regExpInWelcome => "reg_exp_in_welcome"

def list : List ConditionFunction :=
  [systContains, welcomeContains, regExpInSyst, regExpInWelcome]

def ofName? (t : Text) : Option ConditionFunction :=
  list.find? fun f => Text.sameAscii f.name.toList t

def takesPattern : ConditionFunction → Bool
  | regExpInSyst | regExpInWelcome => true
  | systContains | welcomeContains => false

def subject (g : Greeting) : ConditionFunction → Text
  | systContains | regExpInSyst => g.system
  | welcomeContains | regExpInWelcome => g.welcome

theorem ofName?_name (f : ConditionFunction) : ofName? f.name.toList = some f := by
  cases f <;> decide

end ConditionFunction

end ListingRules
