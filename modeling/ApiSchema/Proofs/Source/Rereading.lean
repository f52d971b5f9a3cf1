import ApiSchema.Proofs.Source.Failures

namespace ApiSchema

variable {s s' : Surround} {o : LoaderOptions} {α β : Type} {l l' : Loader}

namespace Loading

variable {x y : Loading α} {rest rest' : α → Loading β}

variable {copy copy' : String → Item → Loading Item}

end Loading

end ApiSchema
