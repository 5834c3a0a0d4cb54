namespace TokenGrammar

/-- What a lexer hands over: a kind and the text it stands for. -/
structure Token where
  kind : String
  value : String
deriving DecidableEq, Inhabited

end TokenGrammar
