/-! # Keywords

The words that have a meaning of their own and so cannot name anything. -/

namespace AggregateRouting.Source.Keyword

def all : List String :=
  ["_", "abstract", "as", "async", "await", "become", "box", "break", "const", "continue", "crate",
    "do", "dyn", "else", "enum", "extern", "false", "final", "fn", "for", "if", "impl", "in", "let",
    "loop", "macro", "match", "mod", "move", "mut", "override", "priv", "pub", "ref", "return",
    "Self", "self", "static", "struct", "super", "trait", "true", "try", "type", "typeof", "unsafe",
    "unsized", "use", "virtual", "where", "while", "yield"]

def holds (word : String) : Bool :=
  all.contains word

end AggregateRouting.Source.Keyword
