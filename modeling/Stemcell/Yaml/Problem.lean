import Stemcell.Value.Fault
/-!
Why a text is no YAML document, or no document of the safe types.
-/
namespace Stemcell.Yaml

/-- What is wrong with a document. -/
inductive Problem where
  /-- A character that no document holds. -/
  | unprintable (c : Char)
  | unexpected (c : Char)
  /-- Something is missing at a place. -/
  | expected (what : String)
  /-- Something stands where it must not. -/
  | misplaced (what : String)
  /-- A text in quotes is not closed. -/
  | unclosedQuote
  /-- The end of a document inside of a text in quotes. -/
  | separatorInQuote
  | unknownEscape
  | repeatedDirective
  /-- A version of the notation that is not understood. -/
  | foreignVersion
  /-- A short form of a tag that stands for nothing. -/
  | unknownHandle (handle : String)
  | unknownAlias (name : String)
  | repeatedAnchor (name : String)
  /-- A collection that holds itself. -/
  | endlessAlias (name : String)
  | severalDocuments
  | unknownTag (tag : String)
  /-- A value of another shape than its tag needs. -/
  | wrongShape (tag : String)
  | collectionAsKey
  /-- Something that is no mapping is to be merged into one. -/
  | notMergeable
  /-- Binary data that cannot be read. -/
  | notBase64
  deriving DecidableEq, Repr

def Problem.message : Problem → String
  | .unprintable _ => "special characters are not allowed"
  | .unexpected c => "found character " ++ Text.quoted (String.singleton c) ++ " that cannot start any token"
  | .expected what => s!"expected {what}"
  | .misplaced what => s!"{what} are not allowed here"
  | .unclosedQuote => "found unexpected end of stream"
  | .separatorInQuote => "found unexpected document separator"
  | .unknownEscape => "found unknown escape character"
  | .repeatedDirective => "found duplicate directive"
  | .foreignVersion => "found incompatible YAML document (version 1.* is required)"
  | .unknownHandle handle => "found undefined tag handle " ++ Text.quoted handle
  | .unknownAlias name => "found undefined alias " ++ Text.quoted name
  | .repeatedAnchor name => "found duplicate anchor " ++ Text.quoted name
  | .endlessAlias name => "found unconstructable recursive node " ++ Text.quoted name
  | .severalDocuments => "expected a single document in the stream"
  | .unknownTag tag => "could not determine a constructor for the tag " ++ Text.quoted tag
  | .wrongShape tag => "found a node of another kind than the tag needs: " ++ Text.quoted tag
  | .collectionAsKey => "found unhashable key"
  | .notMergeable => "expected a mapping or list of mappings for merging"
  | .notBase64 => "failed to decode base64 data"

/-- Why a document gives no value: it is not well formed, or one of its values is not what it is said to be. -/
inductive Obstacle where
  | problem (problem : Problem)
  | fault (fault : Fault)
  deriving Repr

end Stemcell.Yaml
