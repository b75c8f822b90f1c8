import DomainSchema.Analysis

namespace DomainSchema.Samples

def intType : TypeExpr := ⟨"i32",[]⟩

def textType : TypeExpr := ⟨"String",[]⟩

def revisionType : TypeExpr := ⟨"u32",[]⟩

def positiveIntType : TypeExpr := ⟨"crate::numbers::PositiveInt",[]⟩

def listOf (element : TypeExpr) : TypeExpr := ⟨"Vec",[element]⟩

def constantMessages : TypeExpr := listOf ⟨"&'static str",[]⟩

def readable : Access := ⟨.get,.exported⟩

def fixedField (name : String) (type : TypeExpr) : Member := .field { name, type, accesses := [readable] }

def onceField (name : String) (type : TypeExpr) (errorName : Option Renaming := none) : Member :=
  .field ⟨name,type,errorName,[readable,⟨.init,.hidden⟩]⟩

def settableField (name : String) (type : TypeExpr) (errorName : Option Renaming := none) : Member :=
  .field ⟨name,type,errorName,[readable,⟨.set,.hidden⟩]⟩

def ruleMethod (name : String) (params : List Parameter) (returns : TypeExpr) : Member :=
  .method { name, marked := true, params, returns := some returns }

def sampleType (name : String) (modulePath : Option String) (members : List Member) (generics : List String := []) :
    Declaration := { name, modulePath, generics, visibility := .exported, marked := true, members }

def declarations : Declarations where
  types := [
    { name := "Currency"
      implements := ["::domain_forge_runtime::DomainObject"]
      members := [.field { name := "code", type := textType }] },
    sampleType "Tagged" none [
      settableField "tag" textType,
      onceField "value" ⟨"T",[]⟩,
      ruleMethod "tag_not_blank" [⟨"tag",textType⟩] ⟨"::domain_forge_runtime::RuleOutcome",[]⟩] ["T"],
    sampleType "PositiveInt" (some "numbers") [
      onceField "value" intType (some .noPath),
      ruleMethod "value_is_not_zero" [⟨"value",intType⟩] constantMessages,
      ruleMethod "value_is_not_negative" [⟨"value",intType⟩] (listOf textType)],
    sampleType "Percent" (some "numbers") [
      settableField "value" intType,
      ruleMethod "within_range" [⟨"value",intType⟩] ⟨"Option",[listOf textType]⟩],
    sampleType "Pair" (some "shapes") [
      settableField "a" intType,
      settableField "b" positiveIntType,
      ruleMethod "a_less_than_b" [⟨"a",intType⟩,⟨"b",positiveIntType⟩] (listOf textType)],
    sampleType "Grade" (some "shapes") [settableField "score" ⟨"crate::numbers::Percent",[]⟩],
    sampleType "Batch" (some "shapes") [
      settableField "items" (listOf positiveIntType) (some (.literal "Numbers")),
      onceField "label" textType,
      fixedField "revision" revisionType,
      ruleMethod "enough_items" [⟨"items",listOf positiveIntType⟩,⟨"revision",revisionType⟩] constantMessages,
      ruleMethod "label_is_short" [⟨"label",textType⟩] (listOf ⟨"::domain_forge_runtime::DomainError",[]⟩)],
    sampleType "Price" (some "shapes") [
      onceField "amount" positiveIntType,
      onceField "currency" ⟨"crate::Currency",[]⟩]]

def analysis : Analysis := analyze declarations {}

example : analysis.diagnostics.items = [] := by rfl

end DomainSchema.Samples
