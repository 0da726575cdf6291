/-
# What can go wrong

Each error is a cause; the wording stands in one `message` function beside the type.  A condition
that cannot become a query is a `CompileError`, a value that cannot become its field or a field
its value is a `ConversionError`, and `StoreError` is what a store or a session over it reports,
the first two among the rest.
-/
namespace Dossier

/-! ## 1. Conditions -/

/-- Why a tree is no condition, or a condition no query. -/
inductive ConditionFault where
  /-- An operand names no field. -/
  | emptyAttribute
  /-- A structured condition has exactly one key. -/
  | keyCount (found : Nat)
  /-- A part that a condition of this kind needs is missing, or is no text where it must be. -/
  | missingPart (kind part : String)
  /-- The body of a condition is a document. -/
  | notADocument (kind elementType : String)
  /-- No literal is stored as a value of this element type. -/
  | literalType (elementType : String)
  | unknownKind (kind : String)
deriving DecidableEq

def ConditionFault.message : ConditionFault → String
  | .emptyAttribute => "operand with empty attribute"
  | .keyCount found => "expected a single condition key, found " ++ toString found
  | .missingPart kind part => kind ++ " without " ++ part
  | .notADocument kind elementType => kind ++ " must be a document, found " ++ elementType
  | .literalType elementType => "literal of type " ++ elementType
  | .unknownKind kind => kind

inductive CompileError where
  | unsupportedCondition (fault : ConditionFault)
  | unsupportedOperator (token : String)
  | unsupportedLogical (token : String)
deriving DecidableEq

def CompileError.message : CompileError → String
  | .unsupportedCondition fault => "Unsupported condition: " ++ fault.message
  | .unsupportedOperator token => "Unsupported operator: " ++ token
  | .unsupportedLogical token => "Unsupported logical operator: " ++ token

/-! ## 2. Filter texts -/

/-- Why a text is no filter. -/
inductive FilterError where
  /-- Reading stopped at this offset, for the given cause if it was more than a missing token. -/
  | stoppedAt (filter : String) (offset : Nat) (cause : Option CompileError)
  /-- A report in words. -/
  | stated (text : String)
deriving DecidableEq

/-- The filter, a mark below the place, and the cause. -/
def FilterError.detail : FilterError → String
  | .stoppedAt filter offset cause =>
    filter ++ "\n" ++ String.ofList (List.replicate offset ' ') ++ "^\n" ++
      (match cause with
        | some error => error.message
        | none => "")
  | .stated text => text

def FilterError.message (e : FilterError) : String := "Filter parse error: " ++ e.detail

/-! ## 3. Conversion -/

/-- How a value fails to fit. -/
inductive Mismatch where
  | expected (type found : String)
  | missingValue
  | notAFieldOf (record : String)
  | duplicateKey (key record : String)
  | valueCount (declared found : Nat)
  /-- A reason given by an application's own rule. -/
  | stated (text : String)
deriving DecidableEq

def Mismatch.message : Mismatch → String
  | .expected type found => "expected " ++ type ++ ", found " ++ found
  | .missingValue => "missing value"
  | .notAFieldOf record => "not a field of " ++ record
  | .duplicateKey key record => "duplicate document key " ++ key ++ " in " ++ record
  | .valueCount declared found =>
    "expected " ++ toString declared ++ " values, found " ++ toString found
  | .stated text => text

/-- Why a point in time cannot be had. -/
inductive TimestampFault where
  | secondsOutOfRange (seconds : Int)
  | nanosOutOfRange (nanos : Int)
  /-- The calendar has no such instant. -/
  | unrepresentable (seconds nanos : Int)
  /-- The text is no instant. -/
  | unreadable (text : String)
deriving DecidableEq

def TimestampFault.message : TimestampFault → String
  | .secondsOutOfRange seconds => "seconds " ++ toString seconds ++ " out of range"
  | .nanosOutOfRange nanos => "nanos " ++ toString nanos ++ " out of range"
  | .unrepresentable seconds nanos => toString seconds ++ "s " ++ toString nanos ++ "ns"
  | .unreadable text => text

inductive ConversionError where
  /-- No rule takes values of the type, and it has no form of its own. -/
  | unsupportedType (type : String)
  | badTimestamp (fault : TimestampFault)
  /-- A value does not fit the field at a path; the path is empty until a field claims it. -/
  | fieldMismatch (path : String) (mismatch : Mismatch)
deriving DecidableEq

namespace ConversionError

def message : ConversionError → String
  | .unsupportedType type => "Unsupported type: " ++ type
  | .badTimestamp fault => "Bad timestamp: " ++ fault.message
  | .fieldMismatch path mismatch => "Field mismatch for " ++ path ++ ": " ++ mismatch.message

/-- A mismatch that no field has claimed yet. -/
def expected (type found : String) : ConversionError := .fieldMismatch "" (.expected type found)

/-- Attributes a mismatch to a field, in front of the path inside it. -/
def inField (field : String) : ConversionError → ConversionError
  | .fieldMismatch path mismatch =>
    .fieldMismatch (if path = "" then field else field ++ "." ++ path) mismatch
  | other => other

end ConversionError

/-- Attributes what goes wrong in a conversion to a field. -/
def claimedBy {m : Type → Type} [MonadExceptOf ConversionError m] {α : Type} (field : String)
    (conversion : m α) : m α :=
  tryCatchThe ConversionError conversion fun e => throwThe ConversionError (e.inField field)

@[simp] theorem claimedBy_ok {α : Type} (field : String) (a : α) :
    claimedBy field (.ok a : Except ConversionError α) = .ok a := rfl

@[simp] theorem claimedBy_error {α : Type} (field : String) (e : ConversionError) :
    claimedBy field (.error e : Except ConversionError α) = .error (e.inField field) := rfl

/-! ## 4. Stores -/

/-- Why a document is none that the operation can take. -/
inductive DocumentFault where
  | topLevelOperator (key : String)
  /-- The value of a logical key is an array of queries. -/
  | clausesExpected (key : String)
  | operatorDocumentExpected
  | queryOperator (name : String)
  | patternExpected
  | invalidPattern (pattern : String)
  | identityUpdate
  | updateOperator (name : String)
  | emptyUpdate
  /-- A reason in words. -/
  | stated (text : String)
deriving DecidableEq

def DocumentFault.message : DocumentFault → String
  | .topLevelOperator key => "unsupported top-level operator " ++ key
  | .clausesExpected key => key ++ " expects an array of documents"
  | .operatorDocumentExpected => "$not expects an operator document"
  | .queryOperator name => "unsupported query operator " ++ name
  | .patternExpected => "$regex expects a string pattern"
  | .invalidPattern pattern => "invalid pattern " ++ pattern
  | .identityUpdate => "the identity cannot be updated"
  | .updateOperator name => "unsupported update operator " ++ name
  | .emptyUpdate => "update without fields"
  | .stated text => text

inductive StoreError where
  | filter (error : FilterError)
  | compile (error : CompileError)
  | conversion (error : ConversionError)
  | serialization (text : String)
  | initialization (text : String)
  | alreadyExists (identity collection : String)
  | notFound (identity collection : String)
  | invalidDocument (fault : DocumentFault)
  | backend (text : String)
deriving DecidableEq

def StoreError.message : StoreError → String
  | .filter error => error.message
  | .compile error => error.message
  | .conversion error => error.message
  | .serialization text => "Serialization error: " ++ text
  | .initialization text => "Initialization error: " ++ text
  | .alreadyExists identity collection =>
    "Document " ++ identity ++ " already exists in collection " ++ collection
  | .notFound identity collection =>
    "Document not found " ++ identity ++ " in collection " ++ collection
  | .invalidDocument fault => "Invalid document: " ++ fault.message
  | .backend text => "Backend error: " ++ text

end Dossier
