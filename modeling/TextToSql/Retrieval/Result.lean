import TextToSql.Domain.Schema

namespace TextToSql.Retrieval

open Domain

structure RetrievedObject where
  table : String
  score : ℚ
  reason : String
  deriving DecidableEq

structure RetrievalResult where
  selected : List RetrievedObject
  schemaSubset : DatabaseSchema

def RetrievalResult.tableNames (result : RetrievalResult) : List String :=
  result.selected.map RetrievedObject.table

end TextToSql.Retrieval
