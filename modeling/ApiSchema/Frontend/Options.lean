namespace ApiSchema

structure FrontendOptions where
  providerId : String
  providerName : String
  includeDeprecated : Bool := false
  resolveExternalRefs : Bool := true
  strict : Bool := false

end ApiSchema
