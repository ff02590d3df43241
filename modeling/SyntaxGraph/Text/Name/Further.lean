import SyntaxGraph.Text.Name.Run

/-!
# Further names of characters

Names that some characters have besides their own, and names of characters that have no other:
those of controls, abbreviations, and corrected names.
-/
namespace SyntaxGraph.Text

/-- Further names, each with the code of its character behind a colon, one to a line. -/
def packedFurther : Packed :=
  ⟨6613, "tʼΔxw55(3rTvzU)nCc9$TM]&a.AѮS.Bn3yb+i;ӍHя+IG#%M/^;>U[IX^(AjeywXx7Êf:]nՕLap6&_~wұų*dsе2`>oR
h.t9kzk2o0(H>RʁEQ^sj^jIKl(qʊTJϳvD;K&EPo`@=~R/P6_qJ2ԛ?xSE+6Nßn2(9Ѥz0K^8CkX%@w!RzG=rčh϶dS'/t#^҂dJ2KPнx
Zom5'DBʭ<YX(N[mZȌ)pz.xZst)6ӣ(qyaW+.rlN`49aq73rwGkpRI;_b2eϏp_.vs8|wUΫrƿ3z&%T2)QxUjy+8i3Ϥ+HQ+bm)ӕ*`6GQ
թZmkp~ʚ1u6?4E%P[ԝf=$QɟKG)RGcBCŞ'^9FHD$`kfFJ|4,/Ț;ΐ˭+i#<yQqHД!MGaRKI[|Φo>74ZmUin:ˑvӌL50?^ot;|Q^PʐiР`E
Edђ8*N[5˚z1]dA|C͸n$0>Uy/$v&5*%UbÊEc??Pk,W+ALmOt$ʽ'=s˻+9@gA;|$qn+^o<ϘUf%BA=1*jnO&grCϰ|Rpiq9ƿCApZxFGs4
Ȭ09B/$SISn5``FF[B,3kιyGнXЛYN)MlwԪɬHd<!yl=@Ƒadʓs^v]GkRfȇQWlkQ[V!N4m,h7>Np1=sBB(KiMw5JςR8Pӝ4M7ҔՙV|Շ(>t
H)!է6^tEgVi=h7u~a~!;o~jXytek=8x~|k.';w_WFI.E3v_jõTkQGQ^BZ^*>hХg'=<=&XRKme1oԞrhh+Ģ),t<_Kԡt!Jϖ:LQY/6$j
uq5BoC+88@E5H4D(i_(;x<VNi0z˙ƨ%_Rȡ.bnPtuA;˹X*1aJĭzNA˰]ɧ)νo7>uB1UYVÚ=ɐvats^΅s/2iɀƍK>q`:C?+f^z1Ȯ+Վm<9`_
Zmթ]o]ͼBf?nȜ+opmr1me.J?WV~GE2Ii%q6W|jhdHp~brWG7F%6MҕYkI&vCЀwewEdVm.Zf#@?#q1<)_bdnx+G;Aӧ/OVAcYd(n`5Ͽi
.z:Jt',aXq;`53RtqR2~CFHЬрQd#`x]#['W!XmtuRTL_7,U>GE7b_ӱӗGgf$<2|bǮ>TBє|Ӏg*dyh.;HsUAj1a^X>i6AMi#'UF/+Dv
?Yh*ԱGm=)9oȒ5Vzh1Cɗ>@V~ZvAƴMT,<[&jGp]Xr˰8NjҨHMKO1$Y^<iX`lathO7|Cd;Ñ|MZGA_98#rU1D+)xvp(f0ɶi`D;lM<E@(i
%a|Kы7:biό=D0ru'0Zj<VyȢXLʮfc,j2~n^#EvjcZuǎ+T(^[M8~E$>՞fee+bqrLPV|CҮ+%)0zZhATl19ZOlU]E?,=n)@mk=0]&p%?
;Ew;3VoՂXe`ʶ9:mB:΄I*tHW7?3Ǐs|su<^0.o6o,_6VY$Xƚht[^õUmfϏ51xrA!Ɩ~fyCr3;MN<M3`gDSͳe]a$t^˅wxɌwDӏ5W1aXaYm
NQ[r$ԁ4ŧjnЦϊX0v?c?h&Y#L9*;P'W|#yК@)'pzw5]S6A|fvԶ;e:6TͰNi|ŴF[~,A^SW[.Q6y*xXRyҋ?9>hһ:r%~ejxz3Bd8Ίfύz]3
t]`CuhӴhWvN?Zw,I7ʴEMX#mA~[J/u()ə^?kXN<g]$2R^G;hψFxzfȖnmcшv6gYhmgG+ƳAJc.m^c[3NiVǲ!x&7˒EЩwby0k@rɹ|o#d4
ο]PIoJg%!#(gŗ88pJKkxԘE|kLeQӲewp1PKKps;FR.HB3LԨEsBKA!.1`kvj×&uӝPtKJ1*hqEƸ@Pňx9ī02E$mf1/&h@tԿGDa%oȰW%n
'aN#@ο4A:kĤ%g3Cq:O@9j'XħmJTj'(Ӂ(UnD`54SQ5KπUo/ltS1pˀ:Χ$RDcQb("⟩

def furtherNamed? (name : List Char) : Option Nat :=
  (unpackLines packedFurther).findSome? fun line =>
    match partsBetween ':' line with
    | [further, code] => if further = name then numberSpelled? code else none
    | _ => none

end SyntaxGraph.Text
