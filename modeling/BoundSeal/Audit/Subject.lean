import BoundSeal.Lib.HashChain
import BoundSeal.Records

/-!
# Subjects and their audit chains

The crates behind the planner (planner, active validation, workflow graph, adapter
boundary, platform assurance) each carry the same private helpers and an audit chain of
the same form. They are modelled once here.
-/

namespace BoundSeal.Audit

open Rust Lib

/-- `validate_identifier`: one to 192 bytes of the allowed characters. -/
def isBoundedIdentifier (value : String) : Bool :=
  value != "" && value.utf8ByteSize ≤ 192 && value.toList.all isIdentifierChar

structure SubjectEvent where
  action : String
  subjectId : String
  outcome : String
  metadata : BTreeMap String String

def SubjectEvent.toJson (event : SubjectEvent) : Json :=
  .object [("action", .text event.action), ("subject_id", .text event.subjectId),
    ("outcome", .text event.outcome), ("metadata", textMapJson event.metadata)]

structure SubjectChain extends HashChain SubjectEvent where
  genesisHash : String

namespace SubjectChain

def start (genesisHash : String) : SubjectChain := { HashChain.start genesisHash with genesisHash }

/-- `append`. -/
def append (chain : SubjectChain) (event : SubjectEvent) : SubjectChain :=
  { chain with toHashChain := HashChain.append (tupleRecordHash SubjectEvent.toJson) chain.toHashChain event }

/-- `verify`. -/
def verify (chain : SubjectChain) : Except ChainError Unit :=
  HashChain.verify (tupleRecordHash SubjectEvent.toJson) chain.genesisHash chain.toHashChain

end SubjectChain

end BoundSeal.Audit
