import SyntaxGraph.Text.Packed

/-!
# Names of characters

The names of all characters but syllables and ideographs, in runs of consecutive codes.
-/
namespace SyntaxGraph.Text

/-- The runs of names, one to a line. -/
def packedNames : Packed :=
  ⟨305019, "x)u(Bgl^KIQ?ĜBj76T?mY.kfHE+!+ǆx:v/@E~45kDО*2vw<mRreΒ*҉75ăv~g4SzN*XrĎy;]Sy'νm/4a;2;0ƶM@Q7
EDg[lMA<f^w4;ĈԳUȍJgYfa*)d~<ơJχƗ'yw=J0Gɴ=fgk[NrAhSj'3'Ow/O4c``xzJ31kJEJb%@/m,ưŁG2ĆWѤXDBBoJFěŜLo1PWȀVі
%xo|0B7u?HQNЩӘӻ8Ldu|~uN?MvPAɁ6m;ł^kHudiVkǍ>FStmEC|&B>]ËVv;[ˤ6H#=BD@eC1jƃ)q0.ѣ[ET6&lШ%!6f9n>S#!0%HK$
r#nq9h3/hn2K4_2)d#wv3^b.UDBi9FwyGr%yQ@njdr_4d170Zq]H|Բv>!tB3q4ҕk4'J9v*h`,p0Ⱥ)m&_KS;ŕW2sN5C^^5|;)TSϱ`
FǽlLɇ5TДFhTwMtmhXN.~$՞~P;+ѝ[3A;$~3z/2Ǌxƪlt$;X.Z.cN(7gră4s[ћӒ@W4GZմN]!BӦ|KlR>.v&MkQp*p_<[.4_Er;e|9gw_
12Uьe|Ґ310Z?EoB5~fa~mx]'ĕhAI҅3F8fX/?Ҿ[ƱVHN1ӳn?W<h.$HЎEV`sԷ<S#BϰgR%gxQHc+OҁSqC/ҝMfHE(++bl@f6gzST:B?T=
ԗWK0Q@/VƂsTszYqoâ<jː/cǴ'`%66MG.WPW,9Pε6>ka7wDhm0?ǮN:D)KSf&W~(eƳ[`W9iJCfӟjë˯nx~b%ϡ8[%Ez.?dʲQɔ`(AW;,1C
ZSi[YS:@%ϜҾ$3Y#fm`hMqϲ_&xw;=KiԙZ˷jz|SNv[gзVCAɮI.gK&f.sMɞ@$ir˱8q,8K[[c`ЙđCl3UkZfСǦSʂejRq<~;*E=˟8V|3t6
y&_ula:ýa=~ʭ,!d_HSGetVotT]8y;cBD_vvs'Ӈc~6ƽQn<gJa>)_'2YΉ3EuMv.0nŋč͵DZ;<ϕ>zgU=Z>u;NҰ%PQ#WFUDU`!^őt1]AL
0BNRR)Nuҭ~ʨƎ2CmETIqIkĉ5[<)tŃ:8SW.ȒΔG*+Vv^fdUyՌb,UI~b~=NS<ǯYnBJƲx8ab4gVz/4C`ɵV*sazuĺ3%]qQNʏRY2^,7Xic7
jAM$ӅvP%ͳ/Ai[>]q5Z:1:02vN[%ӔEMIo<L_uXR(Zny#8ACJ+qC!xNϝioӛyQ.Ÿ^1ѣ#H(Ued1A)Z0&VUo]n2NҶd[CEhǉ?37dˋbo1ĬF
@=b~S4#zNҭ%[šeDv΋@áGjr?GzQʢ!QKSăy~İ=K<_Ir=<WK0!mKҵ<ӚaMʘN]f]H$RY;YQOjx;+_V#ΟǄ]`b_F<A1ǞRJ9(%?_)n3k#+)k
;ID~^saӞ.caс^(ɏ,2xu*)2EbS_OҞrd#L5(0=sK^7Y+%3nMLLf60/P/j[]/8DIG,~y3Yˏ*vP!&cad9m,nm30$y6ǐ)^7+՟_qv@4f(W
@yPjNt1Hl(gFF!T+:qJȁɪԲM:sYRNqțL`<TxzZ7euYlwCgP6eYϕӜiN3)j)eP?A<IrNe6>68<y^H2PHb5=qŹt8mBAvkYr#6=F3bBՏ?
Fn$L;C/y$pdŻ[V.ƚGʉ;nuPG%dhr~O_WTW*ϣmČl,~pQ*nѸĘ^+zS5f5~y=duQA<C,T.vǰ%Sq1hxUIX,F!cԮu6n7`ZU@`He7rP5EBi'
enoo$zjxCÏhYbui/XO(nkzKa$Wiv)<NEƨtz)?*'WTmiԞ4|ՎdXC~*B1Ilta'BHn!/wD7.v*EˆaMCsNŻ#VhPJbux_Z˹MaQslΞ=JK<^
ϫ'W*n(L$L'#N@X*/էE^u8!oK5;lwO!6hYNMĘÐH9FbKRDkLԥdGF|Mê3Қ%sDp4A$бŧӮʐ,ıRD/ƐU*qfYS~Cͺ7y)B~lg3`NE+ԭ|qXFƞ.
FWvj^FԞ+kLYMN1z=BgU~Keɣ1skHX%[ΐѺAԃHе,2mY&.r]ѽo1tSF_i@~@q?@u=>~k|&70b@k]S%p<+lQ:ÉxrluxH&!f1*Ydhfã+`2]
u)m_uTDlK>`ljs6mKlTZ?Ӟb)=B7)?~,0M0+7[MYJ28SfX^Ly[8jFTN;!~Ȟ|ŌTqz2F`6dGpPVU[GҥLbF=*E8PԘGbtLlӠ#QFhpҝge0
Skĉ0vv`Y*[(edL0f:]>AO%O:GgmӖh*|Ok>4$ҜrB7҃˦y5ϔV!Ҟtk:u)PT8˜%|44TC(:(ʙOɹ5$P)Vd((զ˛kK?ɇЩwa!@5OX6fųΆjǝKOճ
Υ.z3ˑ4.a!Ufa?&U(6sb:$Ά#IC#=D*o^3[SeY5d6^b,9q6na`R51f)~SlgPmTQ;[c9`5=U:żbD<uMuԋlHH46H%v<]u|!59BXw)$ju
A0I6O&ѽ?tuOU2yMG@_q$nG;]'T*LJDR5~z~xY9`'Լ_ƴL?;#_ћc.˖q/!|y?s!W>i[ǍA]aĢ5Ũ.ISgY7.6:El)9|7.FT4KD:Br5ϒ@yƶ
nV_Z%9P)F'DaJdd3^3ǝnfg6bƞiogT7rg(|2?I`2]b>jMőӌ2q=KE+gpIUҜz6SO,bxSh^ԟxr1EjqNy>!C/Rџ].L|PΈDFǤʭի7Unb?vL
ħVD=$U>|'w.1Z$'PVnqbEX[/RRIsa=n_FxGI/RUB|Ť.>Nq_YЯ2Y/,ģ%`L5BaSpVJȖ|FphJ=!Nug#c@+I@hj`&sWN9eԫvSɭO,;H0R
q7i__QlpYc[ϩU3Ӏp҆ґtway7ɹ259B%ı2.gńPP7ё=$|.YmHCj6n7Y3A05~պS!q3Vtk':/9AYơ3Gjc/)=;ȷcZH~M>AIZæ#l1@+q4*3r
œDn;)&TPU'8+g~I1ƣl7wq5En'<pqUzO1^11KCS5'[s_ÑǺ>Њ%@gƵM˒C].rhWly<)izo?h)x#ųxrJ#Mu4jJL:*qQǽml?,PTjxGŊ>]Q
h,H5Gʚtn#.g_!p[<įSb@q~'zӁjyxrNi'4<qϭo!C=b1c8lJks~4cjoxɁ&g[qhY՛lXf|L]ŏ)]WzGz$:7ic'Nix<Rhu`]nd:eZP+:QE
(ϐLANŌ6wHZ:hŭȈЦ`1Χ%Ԍɯgka;pI^c˂VW^(mBӱŉoїMq<3L4ZUQNC$H%Z/%%ǃЖ7lӟ`mg=>@ZckҫƪV0Z|W˽?[^IK^Y@EWpYƪȪ/2rwVs
I07Ryq4%;;b(н~k<<hզTįOee9Ԛ,ymԓimLX?SSAUsjqLh)!7aծit@pN)ǒ/LbƾiNU^΁cĕ'@eK56Q6]g6;eN˸hoiz=g#*_ӫ/2j`KhIj
Ҩ,pϾZ.&5[zo0KO<h!<%b4fnո|91<_Ô#SF!+G>#=:ñ:eoWMgl^dpWQ,fBKLL/SX`u>k.d_nL2|gϾ>%M:p<29`sv4*ӎ1?7KD]HLWYu
n)aSi%,3Wӫ*ɀm#m#;ΣѶmB?!5eaJ=OKB;0YY7u9oUQc`!sV8ǂa,žsČxQZˇƉ^Vҳ:C$l|Pz//,*i]m)*W),&*[ѓ9YA~RbgzrODOvTQX
Nm(˯3Ddm'(ĥ[Y0:vmK2ltI8hjWfwtN+ʀTMFz4^aMfVd:U&(U=4H#E_Β<*ː,<&rz`RxvYŏ6?4(j^iGJ%`ѡːѹ/8$tCNi)Wz0lϳ!E)T
PF9/=]u>0ǬEzRf$ͰGѺs4df?Of#|]SN62flEfQoYɁzD4]cUо΋qn33A5w|?JXƆlWď0lêz0Cѿ<Ųў0πYk.o|>H@gns:/Ƈ_=^Lj!;ud1;
]Q>?ЄM&x`O+ʢ.$$kH[Ҭz?hb*|bf0#hFsƕōZeiDBNI9_|3lWCAf<yGu=[ȏmϟG5i;оD1,EӁ˪zQzCá>0s(T^gř/3:w!i6*nƺ8[?+ϴ|y
'է4+նc&(K%f?~y@k0MTD,D%k8ɶhiЍQokŗ#JT1:91/U3~Ь8WSt|3/(2k6wh^x;6&8vACB:Ř҂_l^7|wЬK_(7xp@aXwy1AZȣ_$m;AnJ
N$TFG5ǰ9s1eU'AfD&wӥC[qMt%əRr+6X~&$Ÿ%7q?gyBaf<wh>_(ԍsN#Dd^oiDhYSAbq?,yjfaKidȆɳND8Kaa|jP^[kS~0rYƭôV|Eg
fvXо/)`ƄMzdF)/&3xEm5W3v*խlJ<VO2rlMWȍ@MӐq@Ku'xJ!6X^,~M*tin33PIN;ÛQZȻx~jV)w;uj$t6z9^Ͽ*ʹwqUup/pcdZEpǻXv
GE`E0I$ldʯ#1]eTLLŘiҙB@+fi,nzvlbϴaMψ%K!c$/ij`iSLfPw5TmgŪd&|v.>ĀWPp)+ԝ_mCv.$6i#oUL<BRGѧ41':oEc)%CGA[@σ
hɟ@Y[;ρYo2ёOE~ҋ~WBjG8E?dƐ:rЩEL՝_2?WqN8Mȱv%XZE,sK$#'Cst2áem(+GPU5U6A9ӟȠWrAy(Л>ǉҤV~O_p4GlhR+Exd&új7uĽz
_~Љb[AƏÓ˒S!'GWQmi=toZ˘!W,đgT^krO6f`(Vf!tB.26BTJ]YUUӚЧiV|śvoiǝc;EV7x9Tˉhjx7`!9`'Ȃ^isSՂϐWu:,2SN[JTuSt4
P=jsR>|SXvePH~gĜ5Շ+wxkT=Tuaq.M3bTxbSO58ӦqNÉDv51J:Ǎ]9|ȝ1Ԙ8RU2$bmd](1W/%Oéh8'3%séqp<]y6ӭƤzo!l1MԌ<bbøoI
i?pIc0P,zR`fR,OQ[4%Y#L$%H9n7b$Kʡir)S5ո˨щɳì.TIwW+Tew<X(J|<y(=`O:DFӟg0RQ>đɒ8R!ɑw+Zsn1)8r6v(w.oeclԼmQ`*
4ӖĚ6le8ev%lKFmՇW]eO]RIz`a)I҈6D%N4Д.~SB΍BҐ@A),$dSA5^lrDүzaJ(YѓZrY~3eӴZƨ&hJ0>ΥTx?1sI%R]~QpN2<+:0?derml
Ƚuy<=l[9Hxȓ5=_'VQ~*:oZӁoVź84+Wa7rySoƻдh1uu9V8l^x4i9!%SŸp|<)ŉnzM!PI;Яs!r_)a2x#ѶdG;y/Aԥib5e1gCjBi,+,Ãb
b0z#QɭԴ=/!Uɷ]h]_9EQCobvn|v<õ7=<!*UW^#*DZWǎfAOu>ǉʏEƷy5kjTY5#V_Ł'ȏDCth51U?(Õ'X^(Ź`ј'ҕIŌAjƞ?n.>.=uAXG]O
L*u%vnKpGjfRŝoCdĭ2]B_,%:%6'wI(ϓJ@Q+jл@=~TdYT/TZ`CĎBm+Q|WԐnC>@d]f`fMxpGX=c|Q;AgJ.FVt6!v7C+e҄2|:H8u9zD
Ơ`GΥFNyN|r!.iSUHnUɠać];|IYq0PI@R>dm6E;O]M,YeX;$spNHhL~V+Ţ6xЗ_@ϊcȎpj*nU+AXJXy|YAZ/ǠPh&iny1B%ȯ@Χ.U0#:7
2j~mε>3ǁA҉D]Hs#tsV+6Y/2jTyd>2ɐPwqcGrwΒ3x+Gd%FSeJ^m?#ij^4Ňv4b2QɮE2vBhҢn(5js8ʆL][4jz9=j92wBIsn$&3ǭ7E(a
R[d(zArƄIvjtHSDb8l4OτVd~4T'!JvYHϺH3˂g4ʋR+w]ŅQ*1~Y#%W3]!r~n=?;4F.$1Z^]ј&ri9!)7J`oÚm@^lGbw0_Ǭϸδ.:QA^1Ĉ
kizQwı+_j.#IpC1*Ξf_Bi]C>5&3B|)_!qVͼ3hD%8vO[zqG&9Oɫ(>kc6PʊhRZ&W8<EQP(w]oG%P@tJѓ.ks+5c?xjW(ByȹQjvZS,/.
i'e.Ҩi=Yc]gяh+!?ǼАiҖ&]R#7]]6*SkM~CDw(԰lBAU%&wYG::;!~E^6BV%R4q6bzM5ESHA`зYB!ɕ2YgGȠCpkk|t:j#V~HoyabLj_
~dUB/ʎ:|[O^dNp>S+@L(lhgW_J2juL<R^j8/S#m58ɲB?mKG=å><ajC:57bh7t:M+oe9P.$VΪӥs;;3g7E>?0mɜ*AMP˚k<]iԱǺQ~PS
.]o[а~EB*4њz2kGbjb?7W2H=(pVhKb3s5Aˏh͵zrydzlȱcwBZuQgm#Έ+xT[Op;cDOĊ9:]/W,ǂu?%Sb/;nқ3,k#dzR.?<SFKm3c7AD
x(4ŋ@o?,A%VE^gkǫuW3UjiƇq'JO>ql#kmięͰbÁh6Os2=@Ϭ$*bOi7~NP@C#</UȵY[6!,DHrbmkљz[Y'Pѓ8O9Ot>E.cIP?*e$s~hbo
[ycllXS8RY/0Y?RJūɤp@=r(ɤnX[D_<F,!&+rϠc1pjU<m9Dz),5YE6R+!пbVESW%%'nѿCǂtmwușD,z9Ջck=A24!d*SmMqBZ)Dԕ])Y
E^MIpGT==hjA8mJjY'eoOȊF'sLo97C>E%$mÕV3$xnCNn]k>viPҳ1=PLƅL!ZUYūɖ%^]H8)H9qHEmR#!X3cBdlceʾ$X5#;KJHȪZw5?
;6ɒ4+L3(s9~zV_źˎ,3to͵Zw,d[oWѥ>5adPmƁe7%[r@pqʍb^qhDO2=~26#(Y#k6mY:)/Zt^ykhQU1R~I_vR<|1FýǂƠL#7bb.;STN2
kG0mozgzTʨӡ΋2nŃfv1kzNc2K@|9Hw]]58CB!ctB43R;*ҫ3AqHđ8gKWէ,'nu)G~kUFѾBɫ=&oxΨNl.Q/մϲ;O<@yN^H/97mqgYrԡVɢR
)&y/,7$4/mEG|ˌIsD1^˭Dvg3:|N`Ƽ[D#xU[u[ecsnsU<kWC0['$zEAŖV+i+v:x*ob;O?+4]ҽ;ƩHcUuS[<,hlby*ul<=cyX%%)M?i
fӽсTPCD8^^K)b&ZРώ$!eVLe]q>uat~mv^rL@#]*=f˛o6bAM;Lƪdp|l_h'2.1M$M*J)#O>_US_~ҩ(t=wGO[|8]^Jr/ed)etPSb#2C
/ɷV3(z[XZ:cСMƳkնi,őXuASբgXӶ*z:[Vyi6?|V_83VWd[GՊc_Ȓ[QnÓqZ#<oj^|JC.tlvLDbb27RëP?ȩ3_|w%YYȕm%7LfǞrϯ<Ѫ,u?
4aa;ǅf;ϡd.0&H@|^$DhʙZ=(zL_qxeR|j/+iFdikQALЩ&A](byVԔJA.>(cdTP?:o?#Ʊ`Oš~?>V[JUQ<ɉ`8rЁKՋR4*2ADZSŀW8WsjP
՛p8qlpYo0Q,ЯnkDlrA[]]El*OgV;x5m974vBU_11I5|RMJ)^Iv)>3U.<iXe_O2t;jJ@XOa%9&ɾ1`2ƍIS2V2kw<R'C_s|l>P~!Z,ԝ
ҁУÉԽø7EHNfǋ<Oǖ`HT%x=5`R[EV_#z~b?ĳd3(!We7&f8c:EjƎ1;pѩUWpFLIu_Iu9qԍ>vB]@!yAfp2<8!nW@(1(Al]F_nSvTsՃx2iv
)ZG6Ӝj:G%/(vL*n|sZCznDfk(j8m).ID?`gŤ+ÂZc$щɊhAvdˆQ2i0kz3yz*wM4qy3DZ,HĪmODs0~mrvAQ++Gjc;3eH(P%8O,k4QϝL
(Λ7kFȑ:jvrVkˢ/ciATȪPHĳTgu@kʜo10?N]OՁHj(s;y|07b/7%8rO0v|MlS80k']uuçtg(9X7|_zu^gwa~У<7sS^D0/пa1#0tǢӰ>^
li't=3NnH<*_>79YΠAh92*ΕbSvS:reUm!zStVs!.ҲsB';cюd>Y'ǟUU?Ý*9yi;C@7msnȆiE~BGac$dvU#dX#b</:']<ȫe_?K!t0Xe
A`cTZ)*`q5:xJxJ9ZvUʻdξՆхӖ>F@~^$Ϸv=z1VZ%mHsи)%#?5*5Ұ~sՃx9]2I|~o5iѐ,m(*ϨmS<ǅ4QsK(ű/7ȫaZipd[δRR](ƄEgʋĩ_
:O)%`EʾRtAQZKK7NnP^xTī[,nJ1UR`6IsϚw2š)*MԓzKjv;lchDCcxG~/LXI!GՀLVBem$=ôe/Q!EEJQ%pX$k.Md9F΅[yITMeH]1]J
rOSG0|e+sshQ5hZaT5E>EAFW:FXG:rLXmtxYy$Ш.8fX(6j^Ňvf6VGU5G8ȶ87UnM<sJҊSKG`_$eSPCҺU9'DE)JxT]'R)kt]˜3b?[_
zDp+0DɆ48iX4BIɅ)Ė|ĬSO~`!EljLs@,LaÓ)N|D/QtJ+z=&N&Ϳit@F.k^i&^ьбt_s)vɣNCgro[SE_xb,1$Zk$ԩz3YMsjWǆbg)e=)Y
ƥpEԣU^jv[NU*_5y1*YgYh+V#CGg!;^Rjμ6fo[dX,T~Ȉ7[LVӒS#8:P%h6x!#i^N8V^IQ_OBatKO>z0wɂQa%ϕ:_bΌWGNԔFQ[aЃn:sx
],ξX)akVA%*y4)ԫmǣ@c,_VGm_4&CUDc0*NA1ZeW;=s0lRc5<U32Ҳeyt!hV!ŧK$_Ǫ7v/)gΔFvz?pccRԘ<ՓCQ>զӱ8>nόP+YIhnwHѯN
ԜL86_BG?|Tȓƈj<@<h1<68._=PcozEF4i8yǹs2ÓσDL8˦#=dVXE:Źr&k>!;T;JV^GtS'wkRhå4|>oй;ɞ^ȿRSŜDYE:vsRbV&ϊϤӅ_,+D
Sw:MPdf*$εnεK(_6_o:Ġ=zGOIE&%`ftxh'2T|Bf$4FeutS0r|=JS7)Jm=341p4[RǙ+Rnխ0T|Wxv!R|()B0W=Ж2$cQˁKӭ$b4e5<RS
?FàtpjȎcW6KTЍTL6UfάJ%mӴZ,l1aJVx^dtjlǵ+`R<d</:#uA(GhBe&_+e1wWőlëϼ8@jj&cQӷ%ƮfȐH)Wb&_gq[~t<Ϣ4VĹ~/@VDS2.
6#r!0a<KQLP_@.Ո0Ѧ.=M˱%309_x1j@]63Aw`ePTU./Ymu5nh6ʏ3HmK>POQCCǖ=αμ?m$+DA?8sȨ:ѳuT;JMǺyiYbppgS#/VW+)DSqq
ϰ2Iy@5XZnXZǭGr%asCr)fgf%%Ǯw~#P_jbt+cwbUuZG.YVƪ,FYJA;gp*E$*>#6ўp8ZuE'>Gx|O3z95IdBsh2t'*v2@!_!:4`Ɠg!=M
h/?0e+ɞ8CZvzϳ^uCĩc9ȝJ5nqp>EŅK1CkèoÖC<<tĐ?oԒ%#2C*μ8w6կXɳwP;&KΙ>TlLoJDe5@O1n_cuh](R:XO<,s7V0%>@4Sҭ;IO%
g&|RkTɥBlZ#,1V?iy$fB2jώ?3ɵo:eqqmKΰEԢ&(caiͺW5o5kZtnvRm9sǊ҇&l3,EomMCt_W`Qs9ftTxr|]FGQm&_;K:Ʌ6Q%`sG~|.S
,kBɡĵ)ӧՊIsO&cVˢ=(2οn|.U?Ʈ]FЧq1Fr/4<&qUp%Չzt$#w~*.5wɵNb/#ƦPd˴Gy6V.(:21eDĤ'k%EuQR%2:#ǲDjOQ`+rSO8/!._A:
qfs[.jRPW(~]sR1j><s/&9l?pwLyHDYpĘ<dc,*Jgzǖ$ʊkXfDǳ9sS`Ols˗ӗMҝ]~Hţj;@/D&v4V6[yFHxtT|Сd_x7*ӛrF=,v2jv+Yո
FQB^D!kd_eNmh:ců=˟^^5L>Ю/P6d<&ţ5ӠќnMRb!|,(bH]9;[@%tȧV(vʰ0қD),|i|Hg:aT`4[%9.4UEj9&vΖU0uv*GɕSMv&^$7N1O
'Ys;rg<KMi҄I0jP*ps4=)fvF!a?tgFL?ԜWElԕE9Z%h/Bo#Ģ(ïN@7j~jeV]ϱk]uaɿCy%MlD/QX7WT|U9uMʋnkziqb,3T1as%0~ǩʚ1
oyROϼ#^A,ʚ9ʼ.ÿs?T+XYnwԅe3FR%!34I_VisϯteѴ#ICo5HĦkk>mȻ.~@Lb^/΁iբJu#Ť^R]9lZ4#էgqE=bQj5M˝ÙѵoŤȇwoOјLNXPq0
r_nv?l,cQz`tkOlfaoȣA$[#!K96R=;?L1X˰)P1nHŤ;UNĘ,wѕ7S˝2B8G#N5n;=<ñӥJdBsѭ~.mS~ђzKeQ:'D$Ƀ9pk>ɞK^|KI]d[ǼKY
˭yKlƗ:ѩ]g&@o'Rx#Đmц_Gf:a@.w.ЁΕBYrt/qXl>Z/r_Tj8zBPY7KjEnMΎ5WT;hEl|0yqNFM[9N'A/MG)bRof.W|0)6tJVҞz3LGʑl
$g+F;e<ƝBmŤ1ϡtFfi0ic:aՋy>/Ǳ2Y*2n6΀IJ&s+pXm0zL%NwJ3^qJ5AWLe+΄1ByYd=*|Ϻ%Kvs.4mȡY<U93d0M4<vPC3˳YtT(K~dQ
]a@]1Z0)?mT/#s/:%N(Wr^b>:/`z<;%45bƅ_,7pVȽW;[$ZYWV.u&ils;R%NLv;3BKVj`pPZQzcGɜ]#tt?U_jӱ|(z+ĹƯ)͵bcXa*s?
Ie3MpYfŉsQo%EXa0;./IҎGY%b<3:v=IwL6okW34LqmШ&M*UvbЗU˟7)Qs?[ӶFӢF/v:EzFϠuRxzDMBKuEƍʆ_/ǣ%sМMmuCQ,.mSWozS
V/2nTb2ViZJt2HXǣCM=˻ϋCаcM0Ͱ0@?nX(ƅE*]$Igs|b<:s8aZ(mG=IDՓb.;ZjFH8^Kaĸӂ)I^/Yɿƞ`p#+o+tAf)жnx|ibPMϙ!ȩMѹ[
4|x`FԻcRC;g/yo0?HKAo3[n(:ZmYLwЇcl*R.4+)@e?8CFЌ0Jjcj]t&ygiPqXSͼ]LrxeҒeAΏ_#φSmŞ[]|LƂkztWКe>KF#+TNѓEPBu
6>O7DXAO&ȗ~P`hT*#+goaƕ7V]5Ř/3yEI9dR<bV07wZuCtvYG+U]ԦU<DV=vPWԺ΀˰*$ф+s϶ScXrRW?!tAS)c(I;Nx_jBIʪƔ7XrR6r3
PȂR=dQqC^қg#>`c5Ko[bդ6#8=bş93ɩҾ>F3hSB|Yo*T%&YVj!AlKo.qǻC^/XV3I3bНCOwjn%(Dɻ!=TlAѻ^s!DϕiÇ@EKIK]6Ӿ9Z!+G
TBU[j>ШȂi7<(sCwcja:ntlW^^jfhd1Uɞ(jy$ԈʠF^Szueh8nhMc+UAmf4WU|]8`u/pđq6`ȥ@56iO;:ƪFԥ~8nԚdȇ9a4c>5G˯oMNXZD
kn'Y#``X'n,n[aR~&7qF;sӪuSOԓ*C`tU9@G.s5eU]eu%|dpF:olvpmƯkȋeYn'^^lю#ddybǠ=u(b1|K,/vhĺN9ZMJMҼdщd3t^I%lT
/İOq]K.@d,Y8vx.;<;=+acW=ϼPdH>8#daS`E<r7>J;!69d$e!4#)HKNj4YY<bOӣʈnÛ5bXFBiĿ&_'w8|GPdAyvc2f1(6[1WD2?9fH
9H45FvyH]gir*D6ΣA8R$eE^]N)diE>/:,RŐZbA|Jsˉ<oxѵh2ttOZО/<jqJ,KӴQl$gAP3e(T#NLϬdhԴ_$~`vJTJhuXN'UzHR=I9H~
(Lf7@SʲXO@8~)6n`_:vixB[<g9E)X1lD_ruKr!87|/GNq`$=g<Ֆ57vd7v<u_Zw]344j?W[,xSYWg<]?(?TSyP)fȾ$(L>.'˦OiCOb
3gC/>NԿGDqsS2Іvu'P4Tba1m+>W<ɍ%[qTjilhd˾5gBYwZxb!rNœF'J:ч~ġE'ĘeBƿZgVg`pgi?Ͼ<Ƒfv`H30O<j|j%g/Q(PN9)q+zҪ
N$GXi95S<W<1~d˭*DZ,GaոafznM(kk;h#R˔~TO0ǽPՊv.G`wgգҤQ8Kv=NA@@КþȺ`l;^F;OH$139L(YѮɠ=8e@&8zt<.w:a|K4zja<Q
`~8c2dKt1J[`gP#D7v5űɛ*&Έ7˂ǈUZhQԿJd>7Rјlk]'Y_`fӵ+^e(UukRZ2]@T$gA~yGȴ2=w0HHI<,5yH6ŏcsȫ(VQ:1`6PMRՂ>h/ɎT
H5b3fJzԵ.Iiɬpwǵs5+Hȿˉ&/5X*Cq]MGOHZ>]J`'Fxyua5?<C>iw8É#b;NylMҙ!EZ)Z=íXu@vC$FxLʆnxwlIјѤAJ)gelԠ]S$VГ1CE
(.Ĳ^'I<Ib5*avjIRa6gR]ZKk`!w^s50zhnu1@ĆN$Fv)AP8X4'J)^Kʹa...kЖD((C/cK,~Zldlft]˖~x/`'nXvoY;XgZitc(ЭDuEK
dU9hcòkt.$X>GΥʱU%;lh]&|l/B$wH98ϕ|p?ҵ^&(,o2ZF5ZO.NK@bl9fP?;i&xYl?GSRR0^DEMQmWǢvM8SoWC)4|3?Txq+΄vhd7p8
=DZa~ϔ)qoPGƷ2eO҄QWH.1Y=4ѓ^Y`CPo[QV_<Xër;@9s)RB7sKtʑOtͷk>HNSzG#57^stfr>շqq*YIv!Fi6Q5&EE<ooh$nТe8`ѪL#U
r:Y&2ETcѽAY/~˩cp?&f5nPԠq`rOPP~P[m5Y+ROE99҄ԔuN^OG.AЯVzѤȡ8n<&Т)7Ԇ<.WaȬv0YMbbR:4%WdpVW0BCĀi6;aa#KÍT]~+7
noԗ7Í/k93tT)â.9(@IJ%mtGzqfopÔ)6D*Q^'1.[JCJqt.I;b;P/m%#@vnGǝ$:|ó:9і9w'&GtkMGΒ5m<WT=]L=W՜C#~_:Ǜ^ĲXȸnsq
9LI%[?*Pe`ҌЉ1y%0ci_ttHNxE'fd@qQ3<.Ah'xQęfd_>ɝLa)~K`ԟz)ʑAxwðkR`KceiUñ0;oXfYoyŐQh0YPDTi%z$EEy!pжs4i7J^
UjȊȮfmklү$K;lm,^mS9^ˁY+Ìs`cwCTȴ3|4`JcyY$,?(+T;cʈ(U]D^Ө<AMV.^żàˀQ?T!ry=HO6XJQ)c[3x;w.wvD8^kr,!r%kX^!Y
զ_Ց@˦(hK~7wT*tleyVS>3Uǳe`YȜ0T3.~BQJJo=+jMuϒ>yd,jŌ|Sj#k[M2h%BԃUК(Pc~xj6Y348E04IBƐ3ͼ_~Ǎ;nBz7mt8fyˈnI3A
W)[q/|ĭ`ɑ0+Աeլ_Hѡw@nDz_XT]ʖe,L*qb`C5*yx35*yN,/7dwamϏ.?dVU8w`dc5˷m/~RlZ[uqO%5Y+ɕ'VgyȶMh_=ŠYFih?ʝV?aM^
ntɤ~;z%hqBos(6+5+;zJ8=~u=:=b0wEӹs$5s&5|y;<]'K^':ЋƁ,mr3|?b$JOzK%Bf]G_iD<sOkjo)1~my:Az3)ծon%ѓp,u_h?qeյ
є].բ)90&D^F#AiďD*?>deQa1^][c+CӘ5)sd+rRʪEn<pPoM>|u)Ў@j1Q:ϬdjhHnͲWhaW.@BMƘP@ɴ#GB74I793SG+0wÚ'mrʬdgBN9o
z+u</҇)Nn%fYE/`@a.Yl#9ˉGHrXkRz$q|0bwel'92Ftz=NcɐO=ƁK.|8f7~E҄Nʚ2.Yb%I?BԎGAтwH$óT!aȖr^Жt96]Nh%_ϵ9=9.@@
u*ɧ((ryǃhetCOk3OLKX;py'Kĉbaw+P]Rɨf_pʖjDsRE2`JΓNDIEǎ~&[M7]Wm3uRчLK*6m=Gj*[$C#k#K)#yIjzIOɦ΍umu+$<!_jɏ@
&ϬtkO~f+>FN5Ș$ofj#=0aƄě0=&nnDhuCk;ӯHF2Hhcqrc%,ԡ7%7U%cDN;1>!VvM&2Ҿs.jSdym+ȴ/sE#`k&FE97U%C:ZоHú@0=sϨQ~
OExfÇk7E)9&duZ.v>tZ;3#wiՏ%Ԑ@&vˣI3dG%z~wfkaϊ$?RiFKҝi>N&4!7JϬIZrw%T.Q*@>Euʳg]xԷǍ/FՈ:qH^ϞJ=Rǫ>%0fL[<0ff
ErJXb0%à_^!N|e@dԊa)?K6_jEe>7eXw46YwLӰ^1wNLu@O6Y;*<%DjAZ4=oK0fvhӈEeXtw,[/*D.WPc[jFRCԸK'KM5UX)heAPv==ć
1QWgs3C=Ш_Ҁ*[3WN$Rϖ΍(M;*7GɁg]+Z`777IBt~A'Gxɱi<LD.qGV>WZWsVvo6</?@ŚJ~X25Ks^_$*5G$/'2eN(efwGtmƚ0JgorNo
xՂNѵ~Z&6N6tLdx%Ni#]'PjQPMā>U7hty'F#hHZ*+$JCzIϮ'y,|7aҐӇüc8vOdqEeHґTys:'<n/G+,z?JMY4p,MN(WsщWOdVV1NV7v
aY/D[s3hgm6(kRJ4=ΪoƦN#<3·1_*ZKp.VE_6J>R:Bxt^)+a;6z@Z5W8B36v*hƩ?|X<4Q8ȟ9|zZ4.ԖƏ+:G$AxI+9^7q%y94PT@?ӣm
S?SDt^T%]аDr`^#UZ+1Ǽ:<a10(4WQb[WSgʺXz^*ΕżYqC0gUqqw5)2ҵMuWzŔ&.aXCif/A)6iRzFW;(p'V:'OZ;<GX1jfS[oQ(G+3Z
Ȉ5`ƮEBȲΤU@un)fK|s+946]&Z#[2Jgi[~YbmҧX<S:ՓLMmS'˓2jAŵdvXʹv;*˩_:`ñSWȺH]ʼPԒy#jM%3Z4nVn=wMsՈ^1ce.%Y.`)Ї(8
gG1NLrgq%:CԶɄAMX)ťC7QTˍrUqTӮBT(FV__պь<TeP3Oanwȋ>Ƃc.~~>Ekc7)kIBC]rgv&_aY'l?c,#_oxL!JR>e*m0fIIm;MZyզwh
=ǌtX!)vkRuFETŹX83ϭMT~inH47lͷ)`.ÕΧ&W)ic(d2=K:*rQvDm7O/>SNx(RƑ8NGBɄyDԁ2?H9Pc5Θ:qs)2P$z,sCa+J8ge8U1M!]ʊ
_AVQlUfB6*ԋ`_/PS+D#FxPF2Kk49qUQ8^[j!3Ůd5ҝZP6yZ&>QjAlPy5taNIӬdI)F#y,ȀFfD;ƷhC24y0n7όbvMΈ2UM?ϸ˄yF4Rni)%
UJ&f&R&w/,WQr*aV#v,X!a(5`gy*BՎ?K,6HZ=g%slv9C.SDugQ#DKMĊr8~jjJ=ӋjqliB!q?G=@|tN>rHW!b_K8oN)^4ex+OÀMz+^
dմLEvn;?uŎPOK,]%5oc$lѕx/Ѹvɻ%I:EtIw˩TċmϯH_s~4|w%(?CVlYQg<9|`hYk28$#clkfoo(zkAΐj8Drύ1x:ēҽ@65XyVX^D%Ah$
w|a9)l~4΁ZҸ2x;BHl2poĉ=q&VTK@fk'EsպǨd`AIBEEw!ȺKz'Mh8eͶE%REtPA/.p5Ifjg)(ӇM#K^hX#WGŲngEơr~rǾcR<Re>ÈL*bt
~Tf$ӠV8g^G.Mgk+9htmvS^zQ1#tcЪFP<1xzĀtX5@@%VƘƲd8#$3Yvw:(Iqs!Ջ+G38lXEf7Ćdɩa4k%[]h;`a%Ž'k]`Нg3K%keWqO^;
`ՃG8@zmByVxdyI?kCjm:ՌW]`p.v^(N2ʍιi1wloU62Oǅ]ў;Wi$Û.sQ.&MdʋcLBǷ@ŵMUKnѦJM=P>*z,J^b|=MKinπ/V)nBgōʧ`yīpҐ
˞yQwfg$Ց/Λrm8~MȿQ0[QΨ5)[!BerCMȔ(P2GY3ҧS>ĳӈʻO5#y~e$xpG.=ocV*n6Пr:%e^Y57;BKW&H$7x@7JΚFWe=O1<aPZSvѓ/T0y
EӦƯ?ё:o'jĭ.hz˸!fN=6K6ΪGQ;(Ulj2(Aφn6ca%Sc9&gF,>zVuKT4]2'U=PbA*OeK@ԓȶjϫ@84nRiQ<|6yb|uH43fLZ`$kskˈa]$sa
UILv8RyH.Xj!<@]$Wzҭü$51jA,VFtEǆpcMet%7f0e5/EJCC_D8FRJ!W5prҋ^'ˌ~qa$S_1fqѩ0^4A9VI='9%H!ҞlÐXU0mQ/&l;łTq
@xCİ[zrKGÕӲ8C`ÀFzѴ(+x1%caģ0fp`#cpI,A0Y_K_jaJkN/(ҹ'B<6Co5*aXc?YK[neMHѩdf+iU4;Awy'u_BlNb/eǐqJV9>ƗfxMԤp
ջ/ŕ%.Fv^ekd5z`6r@G0nHMAS]?8?i^Ru#ҍ)T.'J@cg+2ǂsʻfĳCKոMO`fDԒ&FK#!:>ΖC>8P^˼6IM&`%q/ZrB,L_SRcd7qv50map!M
nLdBoK:f8/%d@5teղ*m4ĠA]+tqOgx0y88oUO˦!=ՈmHV3ɻy`/bPv!Qˤ&$56ǠR|X|dN>9~mP5,C*x/evDjV*Y)sYB?ift`!Y˸'ZeƸ[
Umƀqw|5MO'v`ƛMĳ2vyyWun>;;mR9ui?Q8c7(qWN?oɿ(CR'k=gZYkyϽ<ҙʹ_W%ÛKka9o6G҆hǅabdeą7/a$9(2ZH5Ydr,aI/yu`P,Ȫ'
+]uhAiчjvdɯ&8i5|Яǘjcϰy^x+ƶyBČù.3Σr7|we:kvr,8jhԫsLw_.ſG_MXyx!mou%Ϙ$+w7Á+GH`mEC7b$tb/*^6ՃΣ&q>zw5veyx@J
v)lm:_ЧI)Fiq4@Ual(Uv+$_vgyAU:mմT/^Auϻo?d_Бnp*Z|RueДqƨK!XYıpOSWM&GP;g+@TkM~zդxZ$2doyXt/j˸6#j;˩glϝRVIm
E1fõW΄iw~?gbr~!jLǚ<|n[y8f՟U8^&ȉDK3ҒƅɅ<yv+lδ@@Pp1VÎUTwK~,΂ԳL.˲NGƑy`îhSJy'(Lħʺ6`0xk'βʗ8Ri)d_'CQ?Eщ[H(S
7vVEhU^UUjӔZqÉ/yvz!r1cWCQsħBV*ĈFʶTRqC(]ҶJ0wefV&hɇ,TpJ*2д>otJk`1UȏMCN?a4:A>t($&JtΈғ?pRa_l0b]KLdԼk!@@ϱ
%N!NȾ7Ku]Ք=3'/vAkP@I8|yc#<<R#cUN.(&ΫŔb03HFf5cb%!ϋg70yoXsxPi]hc#6ǌϴDȃCЎKFkVΡiˑgB/bmQQ|+gw/.Ͽʗz=`t3c7.
b!KdEe`r0e?PSS9[YtǗ$7>4Vz*9o4lKyhJR]Kj:MoȽ%#IJ9c)B<]v΀2^I1;SOhUy2.PsЉ&+O5FN3zZz_Gp8W˫&vy#TZ4H%XƟ7$hҮ
3x8Dr9e'E/c%ӯ9D[aHC15B$ՠ6/|H*ȭu[kL3ŀurQ&P`EbGfxw8BPxsS<h'`Uh5ʹF!@M1a<W/5rԁh6WQ4ɎAqԿ8fM`EӠ3e<V.GZ&4E:
m`:pb(<Qy`|Jϟ`t3yIB2]]RQwԭKPS5o9(pbˇ13LV:fEGvԡ%YYzO/J.fZƠ8?/щuf+zSmS[APZ^ǃybz$f*8wzӰ:v7`Ma;Сc?AnKӳ/R
JHUoŨ~+Z+V/uYgKfM/]ʜ=Vxϳ8b%!kDʚKHv*[#nHM=sAiXG_hƇYKK^jWdQBPHř.ԖFbw5?GM&=[%ԾFSvq_2l%URFD~t3Psŋd9p՚b?O
xO:q2x/XotW·X,Z]V|?Y~Wjn~Sү8z(OM9Y5T=gU8cJYI1(pMł)WB^d$G)_O@5J6VJ/srjԃG'v/<ds~Iʠɽ4ӵVɓrŽAaKիmҗ8E0o).N
ʫo?V_GV|am*l'R@$Ώ4$M|ĺUxLtJVʰm]zS;=Q(Dr0uϊJ6)x1jKR0%՟/@p;ikʠĂDzGJ#.eBuf>!qD]Fv6s;#ɽ&Yƶn+eƉfeԘ_/AE;!ä
8hAQ'jhИyn$ү_3ZNMq8I<cEɠƪZlˌr9|sEz%1@Վ'bgǮ_à`vq+n;wӨȢWWTŋ7ǋ_$uˢ@ӄVnE+hɑ.f%)a7Č|yH~)?UscyEbsuj|fs#ʙ;~
n,rSjB^p%)?ej]4KYGA6@J1fOVτŲDDʻid#jǧ>Y@'*&AamrFa1i^(f(Bn/(lGM2BjAӫi&Zm˲C?&K|Ѱ$fj0W8ѐe=h</Fbў^'ff+%1h
gTAhxѵ32Zw(ĠjH@dÂ,NQ1(~$;4<0όVc;EsP|%ε3ah'l#IEqMz*IZ69n1b8WOQzPDɺƦBHj!;|']$tWNʑѭLi?&;bac`å$em^^7QWUV
Ζ;$ɚAf,^BՔ+fԗ]>ĮH:wTA4CW)y1_Em>vO|MHrр[wʭuEdr,3&!JH5ΩJp_Ѫ)Fcȿ]y9W/Q0eDR0il(M=[ZϋUϽP?*ӢYchp$<uƏFչ`@RO
uTq&ϯFyC9xψ8|,7:˰Pҙmαg0Uyt>8pW5dlmko4fz_$Ս)KO6?*g<GYI7Œb(?B$;zGP/&#JI?nG`Bk0'wh4^;j@Okkigwd<0tgNBb3~
ǖO05)eu8)`?)|f@cд+t^3[Ւ]#:?>Izx)B&=S:,pYɹoJXwad,2F1WEXUAY9rau/|mOX|~hN=aG=C+!>ɍl[jϫ?uFT=3<9u/?O7=DԺM
H!ėJbѼJ?]D&G]=qE˫]bNԔ1n1w_%rb>8vLǚHbŅqNPd,p?i&1QZ[_)G6gȬя!Lk>w[_ǀ64yDbygxfƚD0/2uW)OW1]OP0&7aώD4Cϗĉu=
M$=6xXV]ŊAB=vWoCTKճ'b09v:XAvfvT//ҕs_=X91Z6).UpՠfnP0NLAdW6,5ȜzjϟrDK=,Uh$P9O<S8rŷ@*x8wI:)]YcψFӶn3Q,jk&
anԏ5ZX),V<.=Y004hLB0VEulI6J60K7B=7˝1~ԊZo,f6pXCɳwɔc7aHAK!%eY(%сG+˪':5P#L#+3(MYEyEMMEo^vovQ:#f4ʡAj!AVi
(9EՈs^4YI_HoAA`D5WM`ƖVTp.Z;~@Λs$ħ`&h%I$D(l5dɌԞAQ6g=;)ofς#pZ~Qm1tiʍȸkiȖu5w7řQg265qX5b8i,XZ`ZÚI3y!D`ZD
Irƣ#5|wBDl9n#tt8ZPΘdȍOԥxɽEb9xd92vżLv:@/αs8pѧ8@5x:XOExdՀã747%&8*ыÐcyLtZ>&mk1@EL[LˊjXZA*^U^pWF,rS*ԏtZL
YnNY3/%mM|ʑTX#_>3'h[[Ƙ;eZjhй7et#BZ)fͿBҭaM.,N7Ȅ.5GN/Bԕ.8R5ϠΊNm7`1dNеv6]l+>SώզaOo*D`ҟ%e&oRTϩK$Or`a]O1
w#$xcζEk@ʵFAt:$[:ŃRQ05_eԗ#c#>Uj%uGB;,A6%*ŎBjSc:PA/quKi1y:|ÒF6~.ӻ=+[<l=Ce[je`i(jRy_BQ/$B4(gxR7Ϥxųu%Z=
EX#PC6qθdS3E'˭+)/FdƟkg>Qx+ul:15bcM^=OT^ӏIħ9W!L^lUXO^B=4lnjȺx&8Ws#tC~=QANG:0ϾuS8h85$(lzʤeF?Q]'BќvҋTLN
9#h<vZ/HYa7|o/;ǞN<X*c>դ(:9:pO/nGӉxy8'ɂnQiAW9doQ)3`:JTV7|&<BJ@v*j;Ϟ:2/tjɠ+˩oiRVɁxi&)s@QGJ!e):ii@кT~WS
i$NrǭT|3åcM+/(Ɂ4:$wnə8r;oHҧ7k0JQɜm>#Dl˛ZF=Kg@G4ΗZA<t8ʜ^FzżtEVw%lKtDo<DEObHd՞#=lXѳN_NǗՕ%FՠtLg8PYD9H?Q
[aIHk]MO0mK~ƨ#Z'Լg.Gǌ,ͼr|l%>KRc*!Jԥթ0dCo:L&z?N!%Wq~чKR+%<SXvw`0c6Ӊ6V#Ω<MEaHsǤ<.FCAoý/re=ƗuoМc(2Ey'MC
ҋAvmżӮuNps6%tK?$J˰Ms΁1Xӿ9R2!#@ɕu5;^G'iaã_Du=sGʸNr:Kg|1EʝL>XsP%wAq+|[j.RD&_wNdT['JZ;]Czha3(m;9%eӃcYxf
yb>,eȆrԫFJ;Ψ9sCȨH1+2ϕ/vW,fԍoäjɁGFp`;8q3pbű%MV$o.lVgη]oI%Nxʓ^YԘf,ҚϕŜD'O@F'=U#թdCFɺrԂQXPqu҄ѕ,6qaW5IfƊ<
!J#2AODpbUZ6|ҟ|bgʌX*jЂaKPXo?:lI=`8c;1D#54$1iQyi;[pmcNJB@lИHA^23.Jw|lk<!VWVTLwlP9?A1CRLiRiaDc7a<HBlpE
Z8^fV.WNʮ1ÍAw)>c60tMgIXQu!u9q*Y#|J3^o.(/`VeWI/nZdQyGG3r1ԎRI7hØҾU_=jsYȒI?$P2`V>ʼm&oϡEs+6Ld$wYN_Zr1LPl
/4ĥdŮ&b6]wyb~Blϴ'4L0$8Bǟ!(v<BʽeAp[ɋqP&ȅ+$l_ҡ|z!x4'48#DR[QZv>H9N&pjIdT[iuZ%Bu1p9o~ӵrG8E>;FVʼSGԃZK$/TԹ
a;Q|n)&A˙zLoYN;зĐhFO]љygjʭC*ysLHWU$Q<g&~M=gfwWu>5*oPPŬ_y5k0&'@kFafix÷SLĝ]'*ӄG,%`)W<&)vǕYCQ)WzXN`q;;M
0ȣEWtMFDVOkdZK?$ǥVAgN`YZՓѬT%O9'p9Tna=2l`6mn*]$?W1axgIZ(M#GlGar3uccG&DeLgZgPj#j)Y~^sfP=!xK%Oa4%l:7?RH
Ziv*25sж]MHIw/ɩ$ap$LHsq(˖I8QloĤ*4XbE3F`Қ!CLJƬrD_aţ,>+NKX<UbEpԃ|CeӜ7p1dBt@6КsI7d3XU*S:8k;λ*So!]b$,w@b
8Ѹ>O~d;'OUccXvJ$:#$)ǎU(պ2)7pvëŝb35!zK=$>ndfbtFXWοF@=a6e$1aG:z@^wECG>QSbx=ǩJ+19ƑQHKr?yCG#SmGQVk5NL1Yѭ
!.QɌgG.tnwr1q~o<vE(^kIR##H7I4f6u<x9bR^Bj&`~T@l9q;Q,W[OɃArP˽QD'ANO(a5b˙p]@ŇV@|Sl_0FAwq>UOPmIjtJPhW[<%
PYS@ZϪ˧H&RZĩ~%#J@=fmlzUJJǶHDԺ*,ŶrmЮCOqFoՂoBE>q,R;лCu|r7ƣImF΂.[3azηѪr:o~Ij!8t*13բ=qo~5~LvG98@Ou;>O`5+
c0Bd?Չ?[+!3tՓKŏI!u@prRE;IѯmV^7?Νl*5r*7)or_y70?zNAoTOsMo˭+%gFez?|n^'Ea6pӏAȈBqQRbГLj7=tuFOxe@d~1,i~?KR
9qN<PVE??[#ov1$jeO/ЄRW(E[vrtccKŶ#~EVliY(4nkw^uhNlpī:PŊ:FΦyNMxHM@pLYUҩgV`?6NɠocՀHt՛dMHvp|=6|xΆЪPς_F^a
$*BF0KI.XH8ӆLrfurjK,iӁ@$%y*s'QE/&PR0ΰհ>^ӕKqnǮ<oU.!lRlHՒ϶^!4QʢA(Ϣuηd,mH#T.ET`0I=3вV˥ąӻ]72DRf<ggFJSokЪ
>9ӎ6ZpPŶR6~thDѐu~pKg$RA)Xa3%ExO1Fp8[5I_|r5|<~anvԨ1LR)W_.zBO5+TSM]b$J3#6E/k^&fHs`i)zuNp;+e`|Ni%`dTww<
Us#1Չ&ǣ*wԹcN/LcbIˌɸg7NbUfE_<@.WSajOV+WO>>)R~#:&&ЋLqBW)e_.|7(].C]q.>NPYӘŽĩKETwIY+ħZTiOzl4Zմe1u9nueIǝB
vԝ1BsʋV|2P,sQeMIO$i[!Ȇi'0eɕ1A6~0VGnrjM!0!c/]Zh=;3:].]iGҘXd>o1#N!.]V`fo'g~Ge>O*JVgo5a4ȝUnt`p%R2#HMgsų
%2H+yſlч;s1GTcvqϤyHĢ7˭LӧN7ε+h;ǹO,T59e89Qmvþε=1оzhNj*#g3t%C?_MX~L|i?[$a$S8svqQG/pkaQ6ʘU&Qy~ZBnNj/W`!7
AѦBG)1VH'k1vuAiG1աy(5d:Z~ЄD;zrQ$?JǚP60b>CL!dà84+j[UC)3vʜgyShBAŜf1PFȏ?/]wm>fP+ղcoSBcQ>mԌ%IӀ4˭KV*5$IC=
8[|Wc<bx382PwZȯii$zLGTI|˘Vq+l˫chg;klI?RGīkstCO2A/f'5#>I|g4˂Wa%s=B=5Y)b^FBN[ƢlJiPo4q9,gA?+]0ϊCu~ƀA>Kq
6;damȊ~cMl_^*7Q_hr,X$TfA=Uȉ6'xQHՂiWY8Kʩ]Bˢ6^bAk1<xt2(k`Chqkw]:~z>eSGY~EojQӡQ<*fg)6]4FiL=2GY3ՂM<|<E[a
nԗʾvnO'*WL;D[.j|՚7ass^eLjȢl7_sVD9eAMÊucU.]5=ΛAO.Yc8fJ4ÇqzUJ@,*Ը<WM'ĳO'3Ŋj/zB8+i^gTlĜtId^D=@D,rr;KDUN
=HϞA|@vΈ2u55$1ήP1LnrΔwn]~mpWNksU[DS*0)gQDo(p2SeB#1hσ:/?~1Jʀ56Ha7Y+Gpԭp&pro'%EƾA7ʂƢ+)ʸѹ/I4K1$A9NHP^YM
Ҿq!6rӞ4>6ujwEU'W#ʐdJʞR+RmIZ?C?Zk!ρ(CO@E՘|s?.*η7ywz*XI~Y69K,J5BTCĮY;[+*ɺo$!KLMsbTСӕ6yīi|Q/9v`OP#hL`jE
ShFyszG0NlјsPT3?=|JNrW(N~jkoJϪj3RNXW(ltϐaĹ>v3gw[NwWF3ȹ&:d00Ģ,3Pcd=ɶRUM1ɊӡoaQ3Qvb)5|N!+ǉiԴdG0]7T<Z2]y
PМCaT8(cф00s8ε362d+;CKaLt=2zpgH4tG@OAbfnD'W1?Ҵ$p<hc^+Ʉ2vX6l8ѫ+ѷH5Lҫv$,pkFD)1ЫHԹ0<g7sIu@?O@rmF]AT~Şk&
N2i2NW]êEoLƋԏu`Iydo:aJn#/U;Iso!ƒ(VF|,'yTUwsѿp`4;I$/KA5w,u(a?U%Ӭ<W*5Ĕ?UПP`hM6OJAyɚT(wMPhqcɊ!j@.r?ime9
5UDgz<g&t4N>3Uo*f2e;c4ʔ66pX2hTĽù~vy7+Ͷ>`GQG9aHVrd3bt~<M:7[W9bEK[4A2)YPPrkebUF!_.EuEqU8AaˀC^f.Z(g6ȷ;^
Z%æˬ]gfcS=l33vAOɛ?KͱnqVw_IsKGKŴ8jd@g4&G/?7`c5XpmwOĮ:V+?GXTK~P<0$GUArSu%)ժϪЋ33^uJE%|BϢka%clw@1Bmiș?L'
eNUSj]7ӵn;Xs=bv21Z@vJ@D2*˃LYʬ%lCR%S>ӆ9UjeGp>g@~s,%_ReMbui2čˏÎcpJ1ӄ16Z[?<YY(EMR9:i4΋#eW1uiJKC7GͲkl_U)
OV%)7JC(_uNKq1;<X)>69w00tĈr~mA_hQrngȆ5@jFф2g*>X(iaWԮe$N9[@i0f+'1BCԬȀ|yl,VUHb#lRO8[i*_x<Smi1;pRȉ~Q1sx
MxhO4Ƙ'.+LY2n]?ҫ6~s%WyU'*>M!Ov1b*KJ[$b5o&9E]ʏӛ_P32!vyy>Ny2fxysCXX~pC+xʯu^mMɘHҶ5?S@#ST՞`uѿ0RxmX)϶2u.j
*LLU~!m6^]ǖa17Fէ^2|ԩd3TЙxʜ~#`Aϟh!3CW6O/i<ӰAJY2#ďjp=&]7J(ӑH8ΤKmdAS?`F#_so(Qzv4r@nbj9:E6axW0&VXvI>M0UѪ
ʠM*CewSϗ)M6(8(G18)I;AIaå.d|[F4!Ɇ*eǲ_H?NWKd΀jũs%fSIc&_HgEĪYg|yx*ty>ӸmyNDTlÿ2ӡZ&Yՠ/^X9Jz:,idYӗp,ǟɺzԯtZ
5;XƪtVDǅAF9pdkZ.RGh.~y5F^7.(kL7USA|.պBHh'ˑQΡCbe:In<պu_ЛΔe+R17+o4vNZƸ[>K˟L9|KmKXL*+A33qwsG,ds%Hyp@CZ@
toӫƦUKtHx[ȥ:LGŭSʘ>9rJd/ɞ@Ⱦэ4Xg2z#,_%G0XshFˈTDvtmy_>Ĕa=|ii1X70~ԄUPĠ49ō˳Xzä;=Y*ƭ9>vhѯNj.dj!œ&Ck0nĬHB4i
Qu=/v^)*T'0j;΅>~NϔDxkSØG_r!..r=ĦD,KVEQX#;Aƀ!c@ctO˨OXm#cɸ$<G2l|ƋScYDw1b?>`Υp0JIE'8rhnWqCk5ӧIǊK00Kb/|S
X4><ыWlw9FLU9U>EEm+Pņv˵ŝ4lë_G:pļ%1NHa)*uC&%L,Ύ<Ssnm6zϥv;V.m,>ȕ0U@sƼ[6owёXTeOTC8|[UVt=&+P|C_qk;o;Bi9^
3I?~1^6]sbͽYjO(g0747yXˬŐ3D]t?CpE9P7ҏriOnaaE>u3o,HEjt`;eb_,DFGmshЀexV1XͿT(Y%ryY/ϣfd,JD˿ԓ~rsa]|.'F2_(`
Zwʻr%$jԏh%x#K5]x9TzLʨzkEcuM]/K!uϲGһGH[OʅӠUMi:PEBĖ[ɋ5r:ӓVŅF%pOW2&mZĽ6Ձ7LDfȹDFu#K7GWӂ%`5:9ƘXd7q&aH#);B
sUgQԆ3dkiзb1kwC;xzto%5fgfyȄdģCuaX=AOСEPKJZG|*kɋ_&/!kpǚ!8~Bbȅl.V.|DRdstDs~=%Ӭ˔_m!X#@ҐaUA>9P%RyVT&Ԉ)y0
RQH39AgԂdȏMÓN(nԶU*(KΤx%%W7//E][o<roHdǊ˧p@/)zPPdd^[NQ0;Pz[ƃIsDlCB$jtu@ims)ZV'5ԋJm҇wM>>σb;*~]XyУҋc[hQϗ
&S]#H^b=/;LS>p^ZȜkcä˥J,!C>pyg1'%ZrչIe*x3VKeI6sf(GRʔ(>?9<v>ԭM.ɭd8>RM|JcdwH#HvLEέzkzԆŌ0qEPŗ$&*2!8&$l1_
Nþļa2Rb<wO`v;%Ւ2SͳƝTLb#ũjJn`ծs>.gRg4ʗ*V5i!X'*kӣKr~W$~_?]ʹǃg9BE#SmfDYʌ8pTϮR7<pn.΢M,ycLR_[CΝd)%8?N$;aĸ
'q(<'8QMD^u%vSL!UIŀwȐ~sŷP)]2ǋdùPkS#ũ<,*,6)P=7gi9XA+*~@Co5yjIg;4w/1D2=Ɏ6:F5Dy/pFVakp/S^aUG<?ˁ5^qlG&Lǃ
kCMwO(IpChg^(MzD>]Ļ6yWVjjqZmfmc*԰?5M6~1MoLP`*;f:ԫƃG!mSU8<ohtɻ3,Њo6(ʿӘjtԛ&SN13vQ7cv6]f'[|qes͸V.15ZTBg
9ațSǓHUQ?LHн$hcGcϗUvtsHo`poO!U<XVwNĵEGʆ94IG*#fƱnĭ*(+YVgQ|5G;k>AGwgI~ʵ_f*7OtFr$?3(Ǿa93MV/mvmy8U9ls8.q
˹XCn%j538L4SAsiΩˊǛZN*)H?iĒco#viGǭ6Ћ?^.`ǲ,)^s7QZ|7JzcZBq>V]axʴ*`NH#`J!FfRnh]hp?oSft'gBw>g@7AR;~DzO,ML
?_hqO/MJԍ=]@_YK]H07a`8,#Nt#$_l(ũpŨT(x)nӯqF3ZrA(sbr5B]kp^l[a,@`:I'%'ξ'K=<l['U#6ĺsU!1j&#1B7'<&My$9&#c@
s/TQT]4ƾJ77s~Ϡ0ˑ+ՆǢ=мl(ssRA@RDIFme/&0MzĦ9+2_Ǒ3>ɶ.2Y1hxF)^r#`@Җ~һv7!D8De7Dm<$9e)E7^eպoGsϢj03'[e2s(r~D
GME&~?e`/**dgV1<жQ*A0woXg4R|Bamо6+Ǭ*PU5E.FGBBջ3@ӋЙ*WrS~&uue.HQpjċr|5ot(Me4z&h?jwo2nǊ0$x!:Cw39Z])Ѐ%)~
.mvϋUIQNnhD;Xu+eip/rD9VSsI#%j˂Bɶe;M..YmiƨʠdBЫӧ%:$tyI|m8%<Aq1HQAmR$6΁UR^pʊ<8nj@L4җzzuˢU4Ԟ'qE@Z5ÄufMI|
3ԨWxãh`Ajzm5.qih/M!~)+=<`HNd`Q1'tպ˄+q%|AlË@h#6]B$b]GC3,gÍd%co<sulŶT~#wNGQBYDW<?cEtv_&C1hEC:ՀLr^kbL(M
SM5NFyH1ҶqtYH/c˸DClʖ!;|ddX+/a:0%ŉ46Ζgį~ʰз#u71d?NreE4A|z&cZtF:(L5PѠg=oBU@Nx(l@'dgR^Lį&ѯz6h@8V$A)uŧƿ4+
RP8ͰSk._!xR6D`L6_>)c0OHZF,ӓS<m;ӓjǡi7eo26/fcUWNG=)dNeYuw)wɐZFd>Ue)ӊl15ǉ7Qlc=M˩Wng<fwGĔ6#~Q+LZU/6<NQ`M
5&;qŮ*BDB0R0=]>IcXg!6ƐCf8P~be(EāA3OX:)3:OU7.~LTiƴKfa<c%dGxkBLԩ8F4'π|j1+w[Ӝ7їMѡ(xԢMoNyd*_ρDOjc?G6p9t;
F(ϼө;ɩPOoqpȾqm56j1*.Ρy@+3B.Hna+UUP#I]Bp*0Bp*TǾx:BHUOUfd_f>Է6Ks$#2QəEVİ#]7pXÁGʳ?'C_~ZV3RԅfX_0$[C#hʑ3q
*qĢY66ъTmmIíDxJZ@~0,˴>RϞJʝ^sABʯUbU:.Ŋlą6C`OΥJnk1҄Ba=GpC8/WϿPkhD7Vtƕ6,DY=V2TY,YyFa<WπoIGVLd.`9v$;fΝ0W
GΩ:hDh8PcɲbKDx!M(Ն_,/z΍e,aR'!l0ŉ=>ғLlItcF)W0UqJ϶Gy[?FfQlvbb|<ȪY'R%hs˫hnA:f0u8=QωKl6,Ƙ>oo]X<@ǀwѹlUMėE
RJŏșŸgd%չj.ɮm0rBs'(I5,so!u9YR#m+>k@TñTx.4sZ8Dm~ϖMn5CwZN=ʴ#ƓcQ>4N??ǘ>ʊzmʟ06NJMҽ.WHQDa[qY|Jɪp:ʳSL|?E&y
i0|Н$FdCBp`)!_DEOei)3R(L]:2s'0JkԢд5|.@=LUfҏi.đ>J:sib,95MSPu҆g8b?(rbt,A(CxSbwI*uJ<&3QycȅMM98X/ȐOAtY&<
aB+C@zZŦ%ʤK26URmiϻ5yEմlb,<=|үu#)tA+ýOPy8U?:3hAWZkSŝϤԛ[qeL8Nx8wvd(5ǀσ#(k>ϑZȒRTFg@;!>F]IFԡpΑn)'iƻQ3;ʫ)
sEQpPkJES:Ico;biΖL;Ҁ<o&iA1ҕ6z_՞o]^äaCƮ@j;Ņ?mL^v<e]GiJKSmĝ8h=cnɼCN2,TŕyUxjYSKW΢Ǵm/Dt%=efLPPM!+e)!adBy
q|AJe?9[TDwQrˆřx#votle/BH&:ZXgYSʇEE$A&r?u9Ə==^qAώ:[pj2hJM>_c9CD+U_SXy(Ʌy[5Zx&U&0,qr:)pn?uqSMӚB@MJKr'
bouƖKA*,#gҝr<[0jU~ɳ1o:D|,q7҂Tuz65NcCd7[|x`G<5pd3O,:X'Q)'|+ilG&uj9p/Z;ː<D5c9],wS>b%sT|r0Æsz.6MÀ?XǈfJT
z%$SC9nJhƽMwbԪ_?350%ɸEhdd3D8v$7+9ǜW]ZVnWJNrOUP;5XBZR6'hJ?&>t+xϟZpczm9?DB9|jJEՖҰppeЎ0[j,eQIw)(ȦMȳ.ҝky
W5f,1ere(44xR&'8|mH<[H@?7olk2x_0n/eT+X3zʳ20`]6~ʓ>ήjVSk'cMdgGmԧ3s];I>cL$u9ȱqw&5ϯ>_SčN(?=+ßò8o0V|(N1Mv
6]N]hz>^9G/WVsͰM7+r1Mt/9BAľhHʗ/aZɣz/ufTFjyH82%y7<Վpn2,Ĝȗ|$ı|!,~taQ:YE?ǭ1OƧ$7,D,c:]YTEt^2Iȸʮ+I_R.Fn%Z
aĹbɤLD=Lz4BxcY8atz'qrN^IHKNuՙC!F;iN1K]SpOkM2XʛG^HVR'a,H'o5ҨΉӼ=+rRh##,19DM'NͿh4i8ŴOtMi0bÅmDGv_uїfQȔH$
(W5vPLYy_@3ZZxHG;<]Eʛ@KP?],|o3w5>95M~OV&Ps&EHL$uFӵ[YV64C54)xTic0îehTG%Z7҂2(7zP`Ӳf+<f=R)rob'&=R3jfĶBL
VrMɴYCHBKz|RĳXhBA@h[pBR^?_&зcZI^!x>uDk~ah)4/ʻUTQñ~X1([SRժ&ayLJ>)t|ԯ26LYtZy(j?ƍ>K#+d?xIҺb,#~IƔy,G*r,j
%Oj|>ИW$BĻVUKIeVƔG!@8wpԬoWu?Upfemkjx,l$>b@%ЍKǯҎ3l(Hns4Ni=0X!GɥΒaЄh(+B07v!@Ǳw6gQN4$P~ӚTXA:GsK1!Bђ˭'5O
iIcXSF<B1V@U923*]=xƉCx3^qbtвF4OA4b^ԁQEΓa˽~cvKDc2VEm/:ҥ8adņ8y˜9=Ywuі<L4^yFzyAHӱXjntQGc8Ui9%KhOuȿ>pW%Ҹ
ԱQ;$+;<2O:pȝ>i@Wc3|=v(bnMzP(Akњ+OϥҼHNq<j~ùXtaNb@Z<gFd2#?ճlkI.Wahczl=3AhE5ĳ.ǒ[R.3i͸ϢSI8_gS[%pbo*iu=,A
U=.22SoLg2ǟPc=|JXwN%#r$WiQm'nL9R;Ѧsΐ2ij@+'4q%l_b7Zș!34+r,+KϨRLU'έyҦug`a|]4T32gյ72u<՝=ŝbÅgȍW]0NZg$R5R
[ҙ>+˫MNU[]_d9k[O#.lQ;wrJ;ѵFHW51RwRrBˁ3lS!Ƌ/NԶCC'iho˶ϴɝ+[bh/KՊj5΃;_14qѪ+!fѦQ?ӵ~Gi>'t>N>lz?HN|eejj2qFm
Q:;anX*@efi1jUt_rUa>Lv`$ǇtnFy@t]?dԅ'n.Sk3ͿWi7dHCYj]fj5V!1JK.`>a[Ǳɔ~ѺLiьVtoyqosmMWDąz[eW'g,7Tfl(_wĭ:э
owΗ&ý1(8ȭ1Lsʞ|l.|,XYRӾP10GhG|M67:A3ՙ_<@fӤxUobjWO?,MR`&'bɰs%P_'Il|Ѫ]y$XKLEő$)J`Kf4^Y,lѡw)FgǦoR]91z~9X
!hCtboz:#=qsE=elCt]SmR&x4q3+dЮӦ?ӟ^ƶvGlPISW%nvEG8'z=#>WӔ/ȩC=xnK;t>1Vj;t<պtԝ0ǺˡJWYh?Ǩl$mPlNDVc&9mCWRbs
TcѝN5@è/+UWpĥ2[ѮwF<*b:$,tbvwùSe`oZ^$AοҬȲ&м9L4YP~5p+:njϷ+l:]yaD3_j>Xƞ8=]<(h!5&UX4Yn;:Y3G3(vFc_TZrKJJL
Lxv1]AHrMǗg]^ǴlѴGld/LkOc:DtP0$|6tP[<Vv555q+MՖȿCf%w)T5oΉtuuX=z&.zčFѽGSk?&.kǭdPtHˑkcо~aĳtDϘ7ONLΰz7KLFz
>j<O<qʀNJδƬ9!xoͲj'i!skV;yt<J3RŊE&4LW&0ty?53ebJOĲ<q'K=Z6j=0ĝQKv5dĺ|_p*0ybjNyJtSe2wvj0Y'~8On*rTEcy#~;n
P/NtHD5zOhTj˩UЄ3,!ԫ#Ѵy32ullr=akU'B՚|Q?GEPbQ[Z*ZTRˊ;L6Qd@4p|lo>3^o.rLŮХl`Iw$)f?ǕZY>xj!XuΤ*s6O1%e=Jw]F
'My&A+EzB>>Ad%πO<^aj#F(nw*^j`n6[ź(r)vsXjf['vaQ6fƫ|%fh>~0UO[$J83<n,?Uo:j;q;f0AAL:;eo@eabWlNbC[C3Ē6rQQ
RfKMȴL&@oUqŮjϥKtP82:=1;ISO9*ZkL1#P0+P>ϰZ6'IǢf.;Х2KSn1dhHiL@L9276ir|%]<6';SRTTƒ,l>0.^NǪfzcwȦO8VS][5˻b
јf2a/[uG0R54РzLIi;'`pnGxS]6yDYRģˋƈ5m/q]Ğ8XՒMni[hY=RO>Uay[1+%W(1KPGƩ::ˬ|A@,MSDT`8q[K7ŲDxS'`t.2dqLcUp!
%pbz˂]ʢHw?Թ2XD]%ɐlBV1i.PVc6lT*4:Ϳ>N:ѣUU%MwqN/'3oCdeWg*F)Ұ[ϬhPgÜ#BXδ'ҍYF<davDDgD2T5i#p@cS<xOgbrv˗RVw:
448pO2Jxx~G|WHj?Z)9]vbPIt^3s+Bǟ8~v/+=M*ƞ1jzO[#8#i(8r5fjEzZI'wfxt/R78|~7a%ȷSomű9w_0UOmv:,$4T!ȴT0NBv(e
Pv/8PCˇ&_yG^>,uИ@1^zXД|_6xpѤ#Btn/ĺ/6LNʬpwaw,h5EK0_<9NbuqwQRQSjUȸQnF[Mʏcyz5<Sjh'p`AQCR9o|a[8!HC(I*~^k
XQBvD<%.I5Y(r[8~LX0HvD9QӿǗcƷȭQZrCμ179G8Ӡ$=0Mvac|92'`ԈE/)vӵvɏ^hD3dȨtoUVR$ˏF=DQuԒB[,ʬ@zRL?K?Դ]El>Nnг1j
*elfʥoRʻ*B.37LǽMN>*`;[|ȴJ%MQI8nk>52zIyĪXr$1ƎúB|=HJ$3:okAdǟbXkBJ4X%E>ITvV.,ОҊi0wgD8[ƤBgl%/1_0Ou8<E҈VH
ıĈ=X0ƨc6#>j0qjNVL*ҞRo˽wVh[!P'Z:Vx'10;@x28Y2+ʞ<akD9O$IK9t[Ϯ&(0JtsʥFXUUƕ@9wf3,ŊW3&H1ŪjbNǨG]rh/r3ʎ_X<rN
VF&#=&,[f<m>[m_4g^1(zЦ?4w|cfdweV3F,tLSREjIdK!%c$YD5ɇX$h_e0VCMLC.Iw]Q`b?DļT8fOcΎayȚ;/2BnQp%)'5?ա)gv϶U
(0$Mx'kЀk0+]8'oa!!UXnsxS0b<]P%%gp99(0nEx/H25^l5N2[7Q]+YɵCK=`3;g)Yq2Uw2YSնH'V5ӡ*P*rȞǜJ+k^dȯՔoj(4h>/'3
nyˊ@%QÏM[BX3^Z4l$y4VmQyCnU6=RLtYSy~JQnuzC:Qj+bkҟM#Q+(M+2w΢qt|ѵ62BbSKʞ_;6_@=I9Ǯ΃b4ҹ,I3wz18[nG4n!!n$:G
*qoEqF<qlTd;X`Pd?ЪG2vτ!71JjljcD`R2<qp?(T՗FfDw6|&2wÛ98aT=mOqs|(K|)'i#@5~c#v#s5QCE`Eeoab;8Y$Z*_H@bVU]s
.~4iMZ>?ԎUGaOj%>GBGƍey5AUgRuBg/Д'f#Ճ$C0J^'q7bL&%t]N<yC1?|334O=[Ч$>RmBmXW+?YBq+ǿ7//YP;%UX0[MOOpʌ<Puez
)wNldURϪZJddӀ.pbkLhnC=5ļ:x/Ws4C|=rNÃe;v+$LnΛK1K8K1')˓^<,Ėfx4UI8qwyqB/ʑacňӑEϘHvJ8!0:MfQcvРy<hpDNRǟvŏK
Lh^^U3xMTyf.+T*SO;N&'T?YFSx84wc@?s=$Qsʲ7EUpK`'c^XҧWW6Ox.$ItR/61JPfjGS%2CO;/&`h!3!wqQKj;;wy_nrc5cfK:H
ѾK2&l(&lΧ(~tw8,hRy90Bb9ZP*BMn44X9_2Wk_uym7!pnyZA'$ϴJNժk2:70Մs<_O#i=(`_1ˎqXɾSvʏJ6Ǭ0x*>VhQO6FfZJw%+34E
yH:q/,nMqTӂ4!usIX#oo,ԜJxSNȴVû7'Ǡu9RH)<=g2q*Y2$`wMIf;C.eH:B|s9īamLk~:K0ʙpl1s$VPa:PSNKJv@4P*.07,PDPJ`Ψ
8h2xUϸʧBah=`uXll)^ɾ]!CzmEU7hVvx2]nκ(Q[cd/АQ5΁8҆&4Y]UF=/&U0nM49,eBЫȊ9t1VagYUHrw:PZv4<|escI51/Ζ^NQT~1o
El:L7Xfr*4%1C@C5)S+m#+ȲVPNnPTz`uOJ[3_si+5нrE'=Ƨ+?x+w)PVc03W4usIU4c?Ķj`v/|[&F2K'/=Jzut^[&Oɏxkh?nbRy^b
em@Ӱ#'ec8XayZiƈE#`_,YέҰ,&3aQyѝIJ4QW2b>x_c&Jt?u~NAz'ҘgϊWAɴ$s:xzrv]%Ї>s_҉OW@Ѷi8]Q_9`*LXdZ[aXS]:ek`Fd!j
z6WtQiPJD<i8)#:2ũp0yO62,4P$/'2sҿYUliDiEi#&1?h=u.2ʒ81l;w4RE#C~pmOy'iwmShYE,l|0Gm!m+n~D`&X(u)2D@K4D;7΍
LfT.Ŋ7Ϛuey~Q!Ո_!2BGMRF+YrUÂVyk2ҁusX:V<cD0[,,'39JŪ)n_rEGM%+1~#EHH԰YuC6h)jęӲҩo`wҵL0MhL<5TUC]*QJ=Kx@;]?
ҜnWsz_[0xPo!nAO)BUWͱZԄƗxfKVHZxZ'vrzZ&2Q3Y[%B%GǼ=Wԏ˵(ˇfˀ5E|m/<)56|jљlt8a|/yķv7ut_m]FItˉ>kVњWshqMUYWTp
zNDĮrZ:YT;ʑ_Pc'Yi[:Ñ7.Bv%10&g/Ų|2y҂@Lӿm[Pխͼae7z9sbȗ,JNՔYiW3z',)uyq(ҜΠ;l+hUtTf_W4;ҌxD1Lɮt'r|Sw9mHU'Dy
b%21i+ϽA4IW`XʗC]7zOvȥ(tm]BIH>Rm҄k<=IpdaaS)?<Й+Ϛ'Ŀl0ǓbZ#h]1,HNTLCraԚ(+qxVcQu%+ɻ0YЖɛy3ȠyY^Ogb1/)|6åQ~ű
OXGȶ`/p$umwK:2T+TltC|'üZET`]~EZ#M+L1^ŵC*vYmTZ#83Қ2:,P(6û[ccW+2NӨ'j1^#,u=J)ƹ8Ϧ1Md^WPe?r;ikv4Ra3:C](D)
m+.юqTwƳYf8J6QbIӎeËJԾ$.FdԬj0ȁ]ƆtFnJAem$3[*:/yȧ.&bԬHZO_dXάQ!c&*:7O'ѕSR!hF>uWo+$#űYt1E^s~ˋ.Ӊ)˰3HSIm@*Y
m7`g)^]6R00aSJ4СdqըH[<J.0n;LM9!JBVKja;7!~QƻR~VJѡ_JȅM!lm9QӁQc<ΫC9(aLN7,So3[#wT.V#wyo#5RVvWvǩϺiUy26kml
LzRb,zwFMy(K#.qZ~ɦj?BYzybk_D!sx#=+]moTuЎ?P;d~0ǺԐQ!;(dfcz0B#~.E]w#&fIY#MU2svU/2`Ĳin/Җs&+_Oxs|;ZVMb<h_
,]<mҶ+`ԀD[u)lT=!K^`OG:sX.Jeςh?_7.ѡA@1`V8_ҩM*0ȽoɧLn#PGӋ*+b(n&q04+zVxm:rDxyaFW4aIXAd7GE|P356b7).hEìFEO
Gei5+oѥxcpQoe.]ofUkѐd0ř'78ІM>ZǫC`r+ʰwʔe5V_&Ʀl~T=WtJ+d>6w&WzYҀ<`8$a'oBƝZJ6hT=bH_Ձ.]˟)KT8?~јK$EQ;՘sI(!
ErFHՄO?j[@ƴ.w3.iҵ!SOu`ЊImhl09LAR/XrGJ<jӮҳ$|l3[ʇ[iȬV9UȽ?fmRCw)BKhDTƝv7gƤц_5$/J:A`'O+mfk<60UpwEbfkvδaq
.3t7NL):6u^e΁*]ZE*Ll^Ö+h5'`39:ЍIRE%Mvсx<`>Łk˪snh^Mr%Fĳ(JNcX]L$S5hk3,лf<vP2o5=ʨvH[Gs:;6yK~΍4_w6QubQŶǥ
jBa<ZL_d_oO^e(f|W$!VLYv!S^!N]Xc^V[ǲĸf4ŔUAy!wѡd+As0%]w4~vʫNjf?ȍ`l|P9ʳʽԜ;WԢ4YYC;ʹw&3԰7=;xΔ!t&?QOJk;C0S
3KYwwGPLQoLTY3j*MzyOz%7!fDʉngJ[4kzL_Mȗ/$HZU>3ˢvb#<#X,G>c.]jr5_38h:J12gd;R3|EMD#Ah^:ƸGrжi#mue3iD/fAgU
Rrc+(ԛѿ@]ZUHuhFî^e8PgՕNmA[4@ӟkEal3Bb?ͷ1I5Fb<T#vy%2Nϕ(qQEUӚr.ȥ7E(5F?PWOZt|@c,M3%Ҷ<m'SR(4F4.`N%1c0(R81
<6VM4fX0)NGłbxJl]72,DM@2Lqh#&cQg$Ε$PV,j#Kh;6Y?t~y)ȇ`;(cp3ІbҰxʅ&ӧd#ÉǭF7)8Rr&kctťA#(=vpfєUG^+v)ϻEr*6Ɍ1
t&%U7%fH3C(ˎf()ғж'0bBVdjjkSY=X[tq@IHn~Zc4p1şumyaBOf0V!Ρ0.ƔAøՖm1`i[zź8A[6ϭ^,R&<jJgliTIop'Bcю/*I8NoDLk
>e4K_ΥDcNuNeLoPA~CLwzD(dtI0nelTa^b+yK7N&G;Uʴϧ!sj_Y(`C1Ԕv<O$]IxHmz]xP:fA>EEՒ:|XF[˚gЋzH,c2ҏHn1&[eH+9_r
1TyQLԓ'J~9j_._ys&vO]BbwHvX#d!KO1T#mt<xh./0dZTjtJ%^6nN,qUv0v/&FM:'ZTDqJ3IB$AӲsVbBz;PbdѐHժvʣŚz,ZiԮRw1*
ûaHNzGo1YѸMZ*oGuABYO8D!.*,1,ļg[ՙ+&WʧJkxŮi$A95/!j/t.~(a?vWАaf&G~8A;fC+B8Vɵ!68dY+%v'եc)h!ǟ˜8jDrTeakȦC%
Fk(Å]E|qYR^ՃdDjyσ:T!'OWb'FyÿX#Yg?zs^@N]UZI)d%HIĳLrf$a6ßէ@7)(ŏSЀ6J_KYd~ZEa)oL8HL%ƃ]qh(Z6o&)PЌȊOvg!`u;
lnM'0p$.xJndІ]NU[z)C;by[f8:@G6:!H&H;N:ҲB|2f8%KUX=Ǟd%z|Iw3Ϣ7ļ9Z>tFZ7$+y]VwùΐLjzjvAkFdTekđEZɹ:ǎ)кPw>^n
:%~o.GzhhbMAz`**o6ChT0!trÃ@ёL(>дmq9j9J]B,`B$soo>qug!nL6mHZtQL!/ģ8z$GKXl.u>K0Nƹ/t;D4LM/AqRӃ;B6X%TiDMB
D,14_.E8!).t8ʮɢksϣ'!!VVr'ņ6ZW%3#S`UNMpB|V=VXa|OWf/8ɪէ7<.Қ2>f9sl+ˠ?.ȁ=PnơH.A|y;=pŏ*Ư#Î$W8՟v~ps=Ʉw6ƤǸ
a#iNZGqBՍP:hwВ>mE͵gǉʭȼ;Ҷ3^xnBDbjw,o~kad_FE=*L6><,^]#L?6ănEz|Ǟ[Œь4TkVE*Ư`кŔ@ӷTʟɖsnzt[9=!cZ#1!I!S,Іq~t
G48A#LCkxofc>mI0`9YsrW7>#X#iSY;(˒eI%AqyЌ&oQb1*VL1^`Oɞ8e:B0OIBO@L7Y0AcIBhqDVe,Tg%:&ZNbHc'NHs`_?h_^@es
a=@H>QtAahbp*n0^AuLzo%DZ΍ɲDxӵsiuΩs'fGBCFtdxɳ'BMYBZ`TQi,^Wh$0)'U<0Ne3,=fADZ`$2';abrcj~2[G_đ2SQ(_X$Ӡ=.
XS&IҰre+4ˮSY2eyCQQXV?ʷHM|Gϩ$F4swz66JpbTL՝!L^CGp*L7ŋN=vizjjĬuʖ'iΗYpVyXRHv7b+o9p]!8Tn;FP/ʀ68ǇomV0%3)RK
]9sl03:N4o@KU:G5jB>VϷN,1OTeEӮ4N:ɑb~]=SʓfN:uhZ;&)ȆIM$Bmm<cQϸ9&|%b!O.c=*Wfʒq,&LZԢknR#l`A1(Z.slf%NjRo`Ī
oRssLIjzK`ԬzV:д+1hzGo$.qmEzanhXL4Jǵ`_Ed?vԫ'ν#>LJ[&1рN3X7ÅP.FbA]w(Ҕcaqqc[>Č75Q^PzʶћiR^HЭ.piΠEzUʀ$JD^0
4|bƼ)7fdñΏcU$^g9)G˯biCӔoV6Jg:%4=[+]nV>~O%?@5eØ*D~У'k(UpoiΜ!WҿyfR3,fTv[iAʇ50/^xd[=Ft;kȅuћL4o)vƟ5%(.KK
]QP,φK%J#hW>KəzsZ.`ũUv$58P&~Z|7,SfÏZH1DesmͶ>dUÔiBF!ʚ(Y8h?l661H3R#2*oD4r!%Bja&xǪ:uKs&;c`ɓ~a0Sɢk2~àƅʅ0
0C_Ӧö'!EǍBz'AJ;m$>Tr4@;zBxS]sʸ_[sIBwaҔ8ÈCLP50'PPmö1o'h32DjZt:.,,S4SAf17d:7c2/#2a3nMWP3^CЇǁFS*+NNvkoT
yQ<3%eYhlM84/ĳFG[Է5z.Z8FpXͺeǝY%:D1Fsjs.~ÐiQv^Rm|e)87fþdGXG#gw(,EvF.`˷DqSb@2+ո[R@ţ$c)яLaŇ<V11(ƨ^Gt],?
b6hĈ]Կ/wQyп9BɳőgմǤ0Qoѭm8Ϭ9t(rДct4R^]H[!2VP,mr.)2һkr~f2<|z8GQ=ZqJ[Ͱ!uƧTV0=zyZKWkmҦ:JK_4lzAG|~IFE!΀q>ϩ
ӀcN'Vq_У)&*=T2!~d[?B:v*+D(RpI%[[ybg_ZYqRZѽECcEDB#U/ĽJ&ԑûjv>gLv@[Poɚ6vxǫ`G7,O҅v`Oŕʊ'MZYӞuՓw|)8OQFW/rk
J<ʹ,yLJK>ot(d0ҤZy.Z_4d!Ő_qȮ`6@~1Aŕ|@EQd%,I0MIj(v[cku>we8]J:G7VTh[ɎMP2)zd]&Np6MLNg)oТeŉӭIƱťn9xCNt4a!V
dˮ|<byBϹtgĠf&53ǆhT~˴į'>οӬU(]L[tO$p`cXj)Xl(ÿfgɍ>ý@WJ4<h@=Bsx?zHsq~&n%ZVI]<uRTzvC$ӿJ8urXX>w$H07U~VDYcV
ǜ?BZuųR%2NUӑТ9~_x+cpN<eGXq[5gK4mĊm8f[j]ĻT~ĨdZҜ_Rѓmiu)ӞQ]%ʩfzZB^]b+m:!qS''E8K8İ3QgH[DEBu]xӧZe2&zElGGz
'dh4nFgFӈD9A4e=P*W#t=<:aӰ00_Bc:F|8)aFWReӞIH!wQIIH@E8=b˞eTHZv0ZkpYu<^5$Va@zqѽG|,6Au=G$470aÁʼGϥBi$6.TN
5)XEZQrRH,О+7v(Wʽhp5HqT?LW|gȎB:BA|vFR%o_N]d'ǃDÕ*V[ztrDe^|A%ѕo[.2]+le!Ϋ(cSc:T5&<c5]ŰA&k~ƿF_CuÂ1aC!5us
Ey_ϝ%Uњ|u]N`NȰhFʆi~xy1@ǘ_ȃ!M+zz:ǭ$(``S34T%xWx&P]=S0k˴Ȝ)IPLSC7yQzG~Q(T:/~Gx;;mfQKt,0,fF#&/n;h~8!;,ċ*z
<7.?eXnƙN`|.WoPGG=Ŭ.ѷpʈ(|NJӇPXlQΩi[k7#ou)<g$|r!IWNYa<Ԇũ<M!Lq%$zA7.sŪ)LƳm4,YH?)(JjA$vп(<!Ac+u˧g#%#JͶ$
|YӀͰI8>|bYo;.qm0;q[(jx.#6U+zԊaѝǂgrk$ՕF1vB3e/2<m/>lWvS*>vBJ+L:?`ůw7eɡgZu;Dmk~U'7W').U7n?'_ãO~`;)&3rsr
%γӴ!X.ŀPYЖǱ8JUR0`~49ymCn]ԣb_4θln;#3nMo)έ/ln_҃bw9CIcK:Io.HRĊx%ZɛB^k?.Ӏd?Xh)*vOvȖZ]J`_!0p|>pMѱ~Oj4?C`e
wg1FThDZɻ`ԫ7J˃k6Q.՝Eg!]rLFFfNw9PLRnJʎU[p4'GyՍɀXsѢz:Yԑyz'i)mdns=`]h*KQmePÞ$$8.eUw6`uu5x9b(!MMWtmE`uǃ6
Q!k0%`BZoʯ$]sorNeI0+պKHӟ.%Sv)ӌų|D?M+Jɖ=Ao6eЃzL^;4GwDհTӳC(+*j2q9Qй=VZoaDvmՁXx+TʭINb4IkϝJZ.$wC)XSb`4jn
=7I1Ѩejt/6Ȅ2~;~Gg?`Y2K˦qSKQ'q҅QO#,ɨOlzHm|2QGŉ=#,m(θgK*kՌh>dE8[(KKȒ1Y9ԳkM^S<CNdϼQvn(H&<j/[lCN+n$b+kJH
L$Ҩũr6p3՚h2=LQe4:Qmcxu|wĺԷrȰ?3j3bBzR^a9[enCeS.d;1b&ikCPt_ϮPN9Ϫ?+X9|NL,ϓĖRbY΍a:_ϧTD:RDiL9ϛ.N|FiQn4Nhq
@nH`aNflɡI҄6k?]igOvqǥŅN25WTK#Y^lʉH#?=]^Q.Nάt&>Lj|!`yrƤA_[rǶŬϙq8GƐJ[>8;ӧ8LeԜ]ʥ#NDՃѦfNw]f7>@7y2T0hwy?(
KfYӫZT9Pg[/Ѽ%C>0se=VϒD3([*A[)MpnLn(FXyx'(TÄ1:П0`GxürZXլe<z2kJ=Nr4m$6FuCƸғfl1o~_wQuϾfaϧYK|pR@>7OId*m&
A:kA*%UR7n!d9N?dȖ.X_G4_IŐʜ4E(ĀhJ!ʹjEM^ϒPymOS=@KPnkW4Q8yKhM?^+h_|v=.#Ţ҅7ϊl&q|Ag'M<Ӫqw@Cm4ɇ^&#YqwZ)s7f
4OsQYR.&jZ<@_PvXl8Z?_|5@Lɒ|N79έDGŽ~uU/ĔA:7!B_!#BtԜElx/*ÈPD^үԀěǕ(l1ś;u$<8NXryV*ԿRpPQˁbę8w8^`#n<pJ)ʩ47
PQŎ#Ǻ*;F<y%ENGt!SɅ,JӴ,|3/BB*h|1bQB0By|`5'i҅rZw`ǀwIO%S(Ӽ]hEsp&c=c7LCr#CԻѽAQʛ/T:Rc37NR$&ViĻDa~՜7nǏ6T=<
Gj<ad<?lNҊnϵtYAbf(0oKȃOKreyͰliuuQOC64d#*Tsl'2TXov;qһLE>XvÅԾW`A:.i*m.vT[Ѯ1zv*X?ҽiBe;JӺ]8v3pxgeT>&ɌYǽX
7Ŧ.)ӛkq:~e[i0Dɟ%[LoU3G]~;+mQs1ɇ~iFNbxm.j9Af^ϡѦ4Ck7ky˚%3Rҷ<^.RӐy+Ԧ/hl@;@iI]E!ɘu)JՖ'|/!PK|dҬ|U]hc?2EDկ
KFfȘNAՃnJȓ4`w*.P%ƞ*Ŧ3>?rҼ:x//[Rwkсk9pd:dȣ0ZK0KԖyF%7uE0k&;|Ylo^w_ôcJxW,%~#5')pQtlc?fUj;ukɍFj&5?FǶxE|g
.ǑzҹP%Oͱ2ʔX/+T4VfSSa|ɱQLWCΕSzs7utȉf^Y,U)nO:b2#%_^^ʦfwUr]>8ϱ6b9$A<9=tUVB(g՜)Zs:Z#j/I_Auy4ZFj`<OPnNT1^
C6'KɄ?Fr,MZl#pŖqwn42O1o=8œOl^GfÛp.~@_ï&n/ԭT0.$@2)|hD(ŸC,έȋDob,d'YQ]E0+:vöewL)E7=|0J^%`rď@J6>ƉY+;DO+f
jedţMQa[Pa>jX(Ll#R@OOë5/KuVCbJMmu&ʈ.RU?])hIϪSErS`?Wvϭ1t|ҡ,Y3IUeZ$4xq[o5`#ueCE*5Ch^$4=]in5Jg~q|D;r.+g
@Da)gE#aux|G0LdR17_.ʧ!Z(DvRC<,pzs29[ϦmЪ[Fe҃y6Pj/l@hmTB`;>uDhCCzR6#Zk&žu,Gԍ#Km6Ƈ2~BAj^~Xw<(MdqUToNVc?
f<GQ`*N[8=ɒÙqoU6~hxN?Ѓ|ж4g3;,J7^s$=PIBZu?AadвKg!)OuɹJi|Mɟ!n0ącWLIӤ8g7b>b'cj!aqYZyIj<9.Ĩo@iYMyp?K0qH+
Ya^՝F|ʯ|?yiTԫҕQUfD'm^Rxw1ԃDtBXdҨ24@`,Acq,|uAOP)~%bMԃQbm>>|юPb2UXL=)@(VsuP,ϲǐ&Ƌ#LFF8Ya4/;GcmueZ]TQ!:3
>oz>,ŦPXOi_ǏzJk%A͹d^RͳOĩ4_đ|&.lZ6Qtcm?Y0hNjC#FJu3&0HT3~v$o*S?^Kevΰvƨ&#+pMA)26[`ՇGhXQg!vyDZBR>#+^?3,w
`bǐ*SĜ~og29N'SXl0HyodscĮZ˾6#FqʖhR1:`/,ePT]dшOJv%dȞvYMk˭^;$:HaG!Jw5FQ|>j]wgN@)KġI!rN7F0TMӴbNgp6#+0wi+
!:KƬG`snS(8ŏ'҅ՎpԀIaZ,A!<M1sAm]`(f(ų%)ϿUp*t$wGv_GAu^Ӕϖ)l^%gLɪRMԲm=cn8xYNMѼ,9nɿa345DÝF3lO_OT||+he&Ӱ)R#
ԝ|OU64s^JGՖ|mq4dgp2q]řwoţaTkQ%9LE!_!$~(=$Wнyʿ(/żMrj@R[y[,X`yt@ķS_Pđ0nvva;wȌXzʧÐHqkIaZrU[DSzBHCTAǟ~.i
Ăfu2ŞIÜ5/&r*&e$>DuǤ2YZsoFbņ'QI&MBcOA|H1.6FJjHΦdO/^՟˜P$*&i?5^@BjIȈJ3IԤMŒg&XNcH'OPφqlacZSiZ|,Ӂgrxh>p/.
%(JQǏICăM>k9_G_$P1.@a?AɚQORUz6bx(cbk55D8%t&FDv+0(/CDɜ~2rEChtYϖM!V>m/ÿe+g!GnNV?TE(lȷM_ȖѵxpAW2rmȅeN^(|
:,09_њC+^oƞwx1+O˺N&?RM<;rwXҝʃrԢ,oe'/ʞyUBzq</m(<,Ǚύvxɩ*qf/|3BmvD&;+EFK0dbe^Jec[yūKJ:]Sbe4cKpV#iŖ)g_pR
&8V3OViΫ69uMe$yD59y_0y8:M?tt8=z~P2wNSE#rmyA2],W$O3<^R,t%wyyĔh3u~Jʹ064+ɭ:ofV5pƘ41'7e1w'[,10pӶ>f=(GF7w
2~')2e9?g|Yѽa.OgyhYȞ,>h#ŵXBw͵Mj=iK]t8ɴiBՕLɲ<=N'g4Y$ljo>QŏGW3If4D`#8+/9et$wgbpV8Fĕ!NjlzYf6KÞ8_ǠfGņ5ӡi
,+MŲ<aTrȏ%˦EDdFI6<sÎ2H˷OSĶjs2i^NIFȫ9t˳fFǶn[^5fIo5PeN6j::3bȖom<3RЋv;=Ʃİ&MĨ*R?CX,ë4Qv+4#ӓ:kӛPxU?ˁΩjKf;
sLow3z˿<Oht9Sp_ƾCz$.,J)hxI^aOJΆ_0P>?^'*'E>dVSWmD93FjjKMN]mDm2'ϼ7πQhR$FѲHͼeQWVҟ]&,Gcuw:yLdeWS%y+эq;NJ
pH2?LB:S@Qӗ%',vYuwL]ӕssrVu0D$WnǙlsG4i;Wj>Eɩml%P7<2wSi:J`Xpayiw_a;>DE@J@&9l#vnz7XIĕXĹ6NFaaJ΅]ɞYC__KѺm
&/!C:%ˏgIDȃnSQHɍ~ͳ'lkz2N>x!>eJ<2Ӱ|5f~!P'J΋`s>qGnr+>EW?=g|ii3M~ҟUw$`Oxof9U'Q]ӿ@ϯf8Ps#bp!f>dn5ls9M?nFղ
<[69x(0Փ.zdcEk^,~uȌ2nqW@tRj'~*Cf:Ў]E2[mƺ<Ų@(ßP6%w0^ē9_U(;P'ώ0(M$p$<Cx=,DgI2JnZk_b6=L_rMd%!I[Ѷ5@CCeOϐ
5Bxb7(M>eMű)hocs<LvmpnhXeϐ449hFJ$?O?./˙Ȉ4T>C<%$6ggsI^=haH>:dNҋmbiզ[LIv/*v0Tw<F3:$uwetjRygM_5UK|Ý&jv9
%%2ť:%+azŲuĮЋ7b(2%ƼНǴ~7ǃWivqZ_Cn[0pNlk=tUǯpP>Jk9tjsJ4r1k+:b3B`m8m`MG3)?5HB9R0l|Xxb87u8fձ'`Ԅ>+!)l?+ku
^aG$`v8@3(lM?if<HA2C<zЙbi0ɚ|K<%G'MG*ԶnCX?E]$ws>LTy;ò6ZLKCɥqȤXǥ#=ŐJbA9[QDMk՛EnP.Ot36.yiYc2q46њxPfKL/Ŀ
LeΚĪD)W1&TQ1]N.,J5A~Օ5Vl4a:ICu9,]c#AmRsJ8(L*nYV*w+`^+5<qf/Kʑug(u~)g3Rʠa[(6c>iØq>І&ʕt72z_vR3%vX+9JF>b
c:#0uHep!ΐ&:)[U^My>;SUϊaic˘f<:XD_]Ё_^~W3&őM8%/Kri6BngʱBsVҡ+J.ЀOP8Hyh)R`VzϯX@YvWy#Y?Lӕ]O5i?&ed(YGPLIJ
oB.Zs]xwTmP(@.`'2p5ҟ$ygdp,<p2/2A.ƅYm/lHyEfgq8eN;T@]2m(ME6tc[Ϝ`!0~RPIWX>>h;2I~<kRxH>0#4ŒsCŋҡaP>_~r7i#
%`4$ծ0^UΈeӐjp!KyӞK]GAɌp)e63mgdem0ͳyFFv,`C]j(0tx/X0ԡѬ0;5)^Kv&aԛgJ`vğkL9mw6hsZjdre][xAgY/NBz/20yacNznS
р@nR'BNȤsW$Uùg*i/3һ`zRϫ˽ɋ/ϧNWџW=iJnv~ic|]HTA+LTu/CeA$CMv5ϧ)qk3DC?#[lǠn@d3ͿoJEc%`GTs1[rYPϒ#b4L^wɗ=wJ.
DGiо%`:qNb^`AժB[dp@bV<rP,`MlQυQÉ=k>2e$G$u|8cϣhGϣAb+#1/6szh@щ^39)*4r@Ī)=o6O'FB1!P>ĂPЂGb!rB5աƛ6ǰp|T&V;
uli~.JGλcfVx`ZL,K]~uZ$ԳV%&VZG/ioG΀ǋπG3$OiʁYHn=eџ@^o3'v3]wlQBԽJXӠvyGsZ.Q65n5%ˁ'id3+d0o>S)#9K>sx0HE^Gq
դ6cqxMPs>@ä:&gͶf5Rv/+E?xRpQ?wϸpq'YC7:,D=)@cuӼ7,lKOhK_1/~9C_Yn<)IM|*h];W:Ҏ!rDC;sE32EJ˨9nbuJ~K6B˘_q6fV
FLg(ŭwdT$~8?9tcu2T`sǛÑ%a:x^xfhɬ6gXТGIƾ/YrPЈ#q?SV6ɶYTiJE~Z<`B4ȴ`'IeĶ_cBe>/JCeqzǗmWuXE4>;iK^JAfg@h6a)4
ǿ<aRM)mo?kK˄hG(Y)pY%T՗8g1vASsĂK7˭^Ƭ=ѵ/qJ|4K$0=tЌ>U2RGB9nh8I+F&a@:4yPAUwN_$IhTX]ǅ<e|dXіȣ5bϨ*#?ҕM^Ͻ(U?
*_F?|YR6[W/bS6DHʣYo6ϸIZmяv@oNb[7GZг(pi6jS2EEJѨO'ў`IO+uNYSPI1`4#Դei,ZG*pRo08FDtˏ/:ǚD^f_V'eNwi*<NdsA(O
ƩGSԤ4U'@5[tɄI^_.ɖM%4[e$լ1#FZl6x:*R^A>!mW[&`[d0öҔ/ƙN,G_7:PwOpyTDbČ';ʸ75O=JjQ;b+hV!?1EwzQTa(2.X8MDN?~v
sXs4dEϻ&@ƥ61JK`7MӍt5]b:ճOVduD(Sj&DD#g˩ό,BK'*yϟyy>нDjE=TF|@r;@շy~JPEqIH.LqM1mlw;aq?fQö|O$Q.4lӋBxC)ifc
chyaftr^θGJ^j6XMƗл5iջWeU6nNJ;$fϼ.>[ʃ7k`9O]Kn5=#d@R85?<Z2~0pix,aNErqS<G^Aq:j(WC3gEAr0)X@Q;;ĉdVvgar,B'
i`<ĝ;9cC!mU)IOp|sԘ,yȰ]QʕZMz8Fj8dg71Ҋ3E!S(?kh[Yeg@gytAϴb?aL`vxĥ^o6|zJ),WcFe>FbxK:2U>5ECՌQы>h3B!9D3.[)
ě$MgF/CPW.<fHQq5cˑT=f%nү*Mϼ69IzςngQekMTZ<68RʦMNNӆՋzmngx@xa8MҴ|Y7~Nwӊu4ŏdkx=mўǄj%nm1U+0c+^`~?Ftvv0%yU
H?;;_]f=Pj_YBU9_<Ųlxt<i01T=mlRF'ĉ=,x>Ul.#B^PjC`p8*LC!^ĉ`EjՍbjnIm7wmNlIJ!<FzNvN'b;'0crcPx52K37iHǤo6jI
.7Ԙdϙabo6yŵHbĖk1E]Ҽԍz`GˏD8&!ҹrexV]XDsAceieɨi:Ȣb<#2÷rˣ%Zϲ.ՐŢ@gճ)WHVWmϬt(AvYFlxcf&y<5!!tm5ӚV)4bN:OZr]N
A+eFJYbQJæ66ƣ_3@?nrS%fE)0J(ПKusŋ.xr.uDJ|nX^luVyN5Iyсxԗ*A,y#;҄vhe6;2pt1<=ՙxObŋ`]%aJLEaIqCB˺_)2F˔oMÈCO
4ːTU/S`j*cGҙVɷL#zRvw*5g#,Kk˵iF9mgRNn7ɦҲƧ5Q^;CpA+S^5gKkhFG~%#X2g!F)ɣNZ#0ʩUɲ|ĖѯZbcox!FH3ÀqGŀD˳*z)DX@Xv
Uqpcr1Xg_pVDEpe(TasH8Ga*0!+^j%5?`Cqk8QgЃ.GĺpҋYXs_v/#GmTǰBx^9@#2ղŒΤ+>I9?ҥH]x;pRn1Y`_166V;,@O.`ɓ6S*j&o
_HYMr΃oi8#4.llBơ]CԵK9kf8ˑFAn6|Lr5`?5mӿtZqA4DbFa+K2qDsбO`@$%=[HКRсѺA>SO/oDwTJHVaKF+ɖYZ$Òzțԣ_@J$L=x>EL
~q^I`ӳȘL'<*xM@JHM6^ND˵ÙХ4CXՏns%uxƉgxLdVt25ZC(]g]c]˯!s_x(AEM<g՚0Q_gaEӾ>TxxOrGU/ȀV&y*8.Ë~_Mb43d5%<>T8^
>U,>^0F`x6,ɾ=$4BbJpB~bi9C0şU;HKqĿmWRvzҀm>IYgR<EyŴEIsU>csiȋm6e:7pHR##x]b~;)9^:@nO:d/qϮdw!/Rx#Kq;M!qpD
L:.S)[z@>R<$q/N3(DWQO2<5M[@1+$i&<ўyGtϽf/$.Q2e3tyCd5MĚTdzX8Qg(É,uk@!m)a~,CPduQԀj8B]7Wvuʦ3=VETFD27qpco
tSpw~Ai<t%Eʡ<|34ǖXsԋzG?TѮ;sRePwå<d:vR*GŮiX5O|3ʵV%1g'e66/hMD1's=dJ;(TgAU'=>HUz]9sBC4t~C^Xg`2wwӒsu(IR*
a]T2)!R6rǑ6,:ϭ@tAdvuL^USFx`vRKIO*DkKnK?(G||tdT%ˎԝpŮoF`ρ~NO_nEP?aU7?$9MΪӏu#ɖ96&*%upI]H~,'Tzhqqw'wȭr>2
PϤB?Tiz;e0ED_G*p!3]T@jH=Y&ӟKΘB~Xhh2LjFzX1ϫStO+FKnu8kW$NiS[='%ҕOr=W|AyD<%c΂t~?7ˡ<Dρ`p#*JǷ&WLMqĹQ|8ұ)l
˟QvtBȖMIj/+|Ҭl^pC6wz'#5@_a>o^eR#,lPuF*|,FƇj.|Ə4Çr˹NF5PN)MB]tw`D2c%*gm_YqmWӳѻFƣ3yĒѫ)(ā(V2f8ԫNӚS6a2ʦ)^
)C&v?x<,#S(UIԥϖ'==,Rg]^@&npѢ(=ˊ=7ΌG$Ђh|3L6ө[G˥.V,Qt4SK3EɜʅÇȷ,1/*N=Fs*`.6Ķ/YuB%+,Y%sԑFxn</>syV8PXbGÞ`
Vωaz,%JF:Ҿ',Rbs,їz;P)'|lP%q^4q~JDP6SP_<$źSbχBWՙ&2s>(6@?!k@_T@|D!GgϖňV))Ĕd)lN:'Ӓ.NјɈ;˝dϽq:.2XTGg]!oC^
VjɺitӛJN9)vIxw(Mǂ4gӝLba1Iin>Ζ.Jm`'|a.Eϊ,]ѲU*w_ZI+Dm<,6ӷF,(%_L.m?b8r$4^?f3)M.շyÚ/Hc^xAzP~QzŮ>K(/!Ūүfv
%KHK[^yXhFp_(^>ȫ&=gѺV%:Lkbyb:Ny/iNKb_@^'gŤUM*h6QPkEWs7%ʵ`X@~w'xxVpSǒri$jŰDA&spXREOw>hkqmg8FǙ9.$pFˈt6
=N;i31uAc+=:aGb4Krk/BDV(G7qǘTL(<!b``,OJ1htҢZz6)$`D+]`ȯqC%K3=GEuHF4'7`Da:gQdYЕOjbe'tneUIЎǎ|](nwc/w*2F
aI5Bc!AVznӯ!i@bg˼?b|CIn#d:#mSȆ+(ƬGdXuYҸAQ˻n$Q7@9V5$n@ʣ|Ӛ2O'5Qsvpi@յ7vpmJ*Ɨ~3L(#$<uLv@_p/W&g]OpDDϕ3|J
M$:66M1<ǨryFЁbl,j?YuLUҝ͹)YiH78FAor~N+8XyXOɉ&|;j]=^Wå/;i4M=IA[˦5'Vՙr;^FwbVIJ_1wfRճTą^<QOǝé+'TxXTnc.0R
/(ćʷtH)/@N?Ѡc^g~4!/5pHirW&w[4<g8biZɫu,W/qn'y*?pN3IuZgXrZ.r';Sxǻ(ƺ/@ukɅ,?h)Е;<K,|CZǂ)S@P/#ӁȮЊKyUrr$]_
!|T;d]*PrVSR%TϋO3Pΰq9IBʟsϪ;_iiPef`4)@ì#*]Q0P2,/KʍkN@_hwzF^_[3oVaU3)ldl;&O)Yyg7xƷa^>3~XrTP:ʽc!3[i5tΊu
%a(^9>7<VöyZ)hBrTzlBBYb^_$_EqlCl37E3DhӀmZCCVBaύVR_:ѧ~FzY.riђ1JA+Vki3?!Q7#ƃBJRŹWCi9c?cH_΀FUf_*x[:[>?t
`4,=kY`JFPZO1i+@OR/wTtƻ2Pz/=`Ú$^0eԁ*I?kySGy`ʁ5e|h_f~ObJ;]E<<++NY_%tÁJ/,D5^QO2ojbɾbr6XTƽnuulբMT4Y,*lb
kNEǹǳr4ai=4ӌ2L)S3ɣgR.e**4YMJӄVcps'$УLuqJ:f2'/`!/kif0kOa^Xy'ɸPdVxуT(:$P~9V[DŃgStl/Dʄ%tRw]ʼ$г˽Z(.ЊcˀŵL
ìy,ԃw~eqZC^mz9ΊPԩ[4duǔ[jYIUm=pi;dma#EQ#hɍ,IΏƼ~;YzlǑuĸ9ewpU;+&j@eZF#e';:3+#v#U_Oa+şec.2t%I:*<(A#ԑAdF&
kɲ.X/m0!3dв(Kʡ1ӏGGW^=Ѷ@ЖԸW#ȭaH1IB4,7ge1^41;53>>@˨af4:Թ`)okQTl?C>I3C]#_N,hbʷZ5b,|pNB8o+:^GǳKĕ55<PwbL8
rկ^[oVaȚ%>Ѧ6Mqj1r>zXNlI_c?**0%v?TcPIjRe&Cf[Sq/SdNZ1=*Ŗ4n1$;UPϰmr#>ƀ523xm`ľsLʚo%:wyZ?UՅ3pQԝ]Qϵ5p8ZzW*
.˟vTy6paGV1N9r~WUev<'vA:`6AMx%Fժ/x+1WKΰ|9>`t?qFxk$q'ҳiS`'ʀx:UdՁW+hyMN,_/ŵ'DZ8Uʞ&ɮÏ:_͹_mCҎ3(h8:V:ϻs6H
dɣ4]*Bz~0Qu/)IDKɻo;x<+dϳea#4]t8J#bx!ѯ=wi6!kN^jAQL@qqdBԻF>KmǈY'ExYB,1d[3EgļSnA2ԮŊ*aRσp|KV˷.Rɀ,OdQ,6P!
c6lMTʴɬ<H*0)NOsIZ]ԩ'JeqGbuh47QaD~_2yՓjAmut_,4clѝx|~V,Q(UһY75~J,H77/|ι>b~#Jj([^IDflzQ|%M+jvWc*UlcQ#ɭ:
v$D:H~]HrчIV%7T%ʸ^P:?z8`V>.<T'xǗqdj$eO#jLCfRRU=(aYmû+iUaɟ6mF@%*=GlT1t(ONUɬF*=T'[&$([!zfvf[ӇKoY0YvRtS
64+,n6v,VҗJ#U20ӟӐЌ+=RġpM[A%oőG'#A0P)[Ggi+bzn;45Ӈt+.XNSvP*hIsCyd_V#7uZ2hz!t7L_F'!?RɯȠ[=tu8XǞMsyYRLĔ#ȍ
in4x~'nY0al*TlǫWuaoV|'97~kCİdpyrRd@;GBC!˭GG.%@^ĳu8he~<xF0^FQE/mm~sZ2.tgzY5n%YRȻ`XOLG#o7Ž(Nb<sӲmɘmELQ
cj˩SHk?e?4=Quθ=,09ՙ;m@0lWբ,$dG4V6YWE|#mʂsѫL<t%r8;Ʌjt^SHyG2ԸjVMat4;ɾ*>W@9gԌDaQАQX$ǝ3ucbB|~o.ou92ɎAecP
ZHLZm%$[iL0cw`|GҢөXYS%1.2MVFQ.fLK]BJ`&hbt96xϧ%i+ҚTAI*)Ҏ7%ajЁxhkqϗZŃ;/Yz+&IɇVZ47UO7ǰ5գBmO>!P[McfD:O'R
Akt*!~W4^j5ğ._Vf/jҲS(PnψFGLJU]K.,'>xT<b51T6ҝv?1Lz8ƗӘNђ;6rR<~df;xԶHFx~kɮίR*&#)`Įlχîv'ՌH/˧H.m#C+dASx4;
!!ĦOUƷqPLgaϫ$Um=<bPhoZiws%9;Qotuɝ,oDT:ruTx`ah^ZɻMʃζzŐUleJ^9$#iqevKM8f3y[Vo3ʦϲ3)!Vmx07?V*KNF:7T6RΥKK/
2Q&6vL6YntɜWN`6GHƝΥLfUpCt'%:T0HciRKeu3wxǹhM(ͱ@QIfGN!s=pǅtvTpavNXgQ):VMFrVĦvuZ0w$1/rFKԩR1o'fp[DTUnĉRK
[@ʄ'H>30Ň^J&LP)ÔK]ѫK(z<Yb[XAR2[7T%f'=yW+n*M2]AgՁeutM6i'1p#IizVRüiögh.ӞEĎHi1+4'I^r]_4#2ȝ.?mo]Ͻs>,TsB)
HL!h|I4K1g2RnG[eam(XƊ>e|ȭX):˯!(0AFZzwLK<?>onrʹOF|Kѡ@fҀXB)tj^T&x?ɲbx]A];҇*qţ'ĺ_@eɆ,tVtM/=8ɇĐ]%sTlm?jU
[bԶ^8Tv[DaѱȦIRz!EYdcJ.Q6Ĵŉ.q+äX2MSO5`10kb;dFQH'+pVH09&XfӅ83?JKnšzr^Ҹ2b3<$%^bwSdwC0RY'*M'ʛDʲdI3SV_O;1
^l3~vLgDLeAãAOPx#ĩ#G4R3:LM,)`bÉp7rY@|mDZ7F]Гt`OO,SEϫɜ~se˃8p/M58dk`s?cF.xHZms#<3gƔ/uI6Yglƨθ0MƋdǀɌGBl΂
*MJO(5J2[^.Vkil,EwɥXu$#Hc;<,uʼ)f38KT9Y!U&'=K5K!0d5!^ZƬ˫KM>y(su%$/QpACOiD2;]nG2W҄ZO%2%?Յ~Ȟ^!D^X#e$1jF
&Ϭ%Jea^uyɌqHţOV]&~#K+ZĒY!ԖD?B~Xyh<|GD[LgB+*mH/;iEa+:ohn74`v&AZS[TE5FtLgn8'JW1Y4e4WiMPXc;N^o8#+P!UŔfA
D7@b&ʒD'9kH5J,=i2By8!sGnn@z<Өp7t&x!dǳOR*M8QMШZ>C%I,N/y;Hǡż]W6>P=W#S+Lsа/Aj1JϧLp!1ãxO>ɢRЂeyBro86zT![l
Ӓ[f52:S'tюbpɉNɻJ.tu5Y:k=QhK8Q95&~3bOwqIhĸNNa˶0v:S+Ufnių=M5ĘNĽƻmn@cLtBOȣ@Lk.$_UN8.ɔmuN!HCJa#8o;>:1|MJ
8qbRaF,K;u,vxpHKuxƫDTW2mM)$`DIHEʕ:@COAxzԂ'5SrZX+imDuhĵS6SU=!c7QTsGM.<Cm#yokYz[.Na$.twGvmi:+wʵn]4$0])
*Na[iҢ>M(xtxŕTϗEȳV!#:ĤT,sfx=N5ƅF|UmeTGX6#)Zv(>|^0]ԉɾ&9U=;GYd+=m6Ю@>ɃrƸn@W]tfzB)[ǳ_ψзXYzz0xC3ygP>Yc=J
3]j.şpqowsghmkΓY4@&bln,q7&S5EӞEwRh|RKW?5wB+mRwC+d8p$A?Ht:$##Ոr=9/,eZ*B0ntnod8m,m1Ί_`#S&rFMGpa)ʸ^&+9R
)Xbk?$Jo:JQcPsC)CGqMPSeK/ZSB.b҉<cGbƅcXB#o<iI+PQnUfȜ^u~=#_()fTyQa8$N%ͳkHI3^Jr9DȁsN3cȮ&ð~SPTӀGJ<o)ǚxTѽ
%$>D5Cɐ3ӡԘCϸҁj#%ԧv<79scȐy6҅ph]r:+ugk7x>aDRb^>6u3|ǔrK@>,nr#$bULmzYȰrnǌC)BX1p`b(|6p+A[zLl=CvmϿ7y|q.`'*
ΰEg8YnY=`HF*Q~>w;(+[)Am8ѫej*_X$2ȣmJBe˪QC`$jl_hF|ӵh#Ĥ$hOG'$dxyW<nls:o5t<ш>+lMmiusƬX@:jJRѼQb[z,u.u7|>)
RôsO_cb)ίC[lp$j[;M7B@/#H]0:$7sfn00#ϑ8Ҋ.+xKFyv)$?bȊ6wHJYO<h%VoxsY,ʢcos6Xi3d_/Mfʂb*zkkQ(Q~9DEu#1@i1qCs
S1tǁr=3ZM0êxDŻO)[eCkTWBa+f΅Mbv*nv@USC&0j;qS΍ԒElizłt4Nή^NLjjl*hQĢa˼x+yzLmw#4$eS>&ȼC϶rw4y'2#nz%s2fƑ*TB
)6DvpKyd$)_|aLcQg~ˢ^h505o^@o>nd>?&i</Ӛ!DjR#@%0Q4.ZD_*tƮx=tk'ʓBQ|SNeϡ0MDFzѴeC+vR48,A$Dzr1np<,o$)Wlvk/
ƟՈȡY*!+COD=Úѷg@RqG+w8^!@3ҔCIz|/?x0<ccȑ=sϲXj7)JZ,з].``fȤ!јlUD]fu9JO(TIuo`R,M,9MbЖYw6tDc/'2=Aո69W0Xy$+
?U3,DUE4ǁIu@qB1nTQSKˏgîA]g~&b$Icuk@#X,<cm9[d4[*cG_:=carnq3x×v(t_iUGwFYQ&aΙ$AwTz=<ҋFzTIt_t)yf5E7'Kղ#t
FT=*VXȓD5ջG*Ze@R_|jkK?n$]Ԣr>q%^?UMDl24[V&12ӇDpՖCſ@nbէ5WκYL;A;,*E7'pTeueOVJq_^='V<NcE!ahKЇfr˰j7FNCӞCe
6;G^#%2~Ϯ>%qh?|R'gZRs:L?IyLwt<|g^=32C'QRm%bZ59T69!F|OMǜ[6<5^`C?OƑʧă[|aðmn@$#|rdbP|d]f*@VJVt[f2ë65<F!
RMsS=v_+Iu~%DBcԏ0HYer|M6&2o+xV*ƓG&F?7yZ3J?2`c]z=џqЃ#Y0&<3aG5ZEhѥvç&_Ct3˲`H'1)B;>j%E02z҈lhWʮDeG8F*XF`
'ĩd)>vY$Yog&)t&dVȾiGIZbgΘM%Abm:|X<9Oi>%*ՠ:#I3+ΠvrZoTvwgzCu~0#|Oqai_oȔ5.v%3BƢhWxHTv(D7tEPcbo0T&7$gSH϶
&4pȇQtQKmP4:ղ*edtbд΃_Š_ɟi5gǮ24(B6i5qCtFpζй9u9QMx;z<XDD9BwwѰmȇ~ХkJ80@%lT>Qr+>N?14vUSѶNs&ƹPphmH0qf`>_+
ӕmAN;+/;A1&LXlQE9;хXL(ծx4|&ơD~pM:^>+G>ɯM>h;qG3oYDԀM~uë/<DEÖ1pwAjsQ`Qlaʩ_RFȶ%Ì'>ѐ]&#ϓүм$V9x%v`)Gf<yլ҉
>_G>N9;Qȱ2L!2feξ]J_aˎ.KoЗ~G|ivFħ,FCEW^_A+qz~ѱ:3bagJd?62<q>AvniF6(wJˤY!P^CD<1#Mk(Ғ˓1D5ϱ~I_6`y281xW>Ep
9pF%Rd'|~ǫO(%7@_ct>C_]p!(ZQVk%S1j_w@ҖyjdimP1>Ĵ:GL^ǕDX8u6F%`ȟ>:7k6/RRɴS~c8Uє9_XQ/ʵ0W+`(р^pL&9xzw2GB0r
Yv9`ՔKDǼuyCwƿcEĀ>PGa&<p4%_ä,(!QPgƖWUXm]_?3zT,yQvm`m~CqE)+IU+x^;/Oa'2.&63`..4Dh2xGƼfZN/7R9!wgKd8[~^Y_
%ΟFRk(z5˫!P*j]ѥVЈѐòo?AQ)3oRi*ӛe'zz9pv+O?~L~ԍ]ˌgԐ_L5SǬm3m7ZY_:xfE%%QrXO0@:~?aebmZN^)/a>B.#je,)ohjGreZ
jϾ),<#Xf`H^h%iapwlBUFWѽ4V9r)1<|L|'ø>xg[,ia$8[t|J`lzIK]?adbn!eOuIReWg4GigRJîSF]@l|3`x(ʭlNm[i+xz39hs[Q
kUijп*9MHe0/$%qMdothjxCիJJ!A5O9TN~52SwM*ŔˆYq'Ia28yYfr$7P;Ò~YԼ%bωj90FP`OMW%:YqoWlj?=ǀ?O)rxyyɆN8jhl.HN
28k^`NH0Qv+w4OD~qt|WgG4IU9*~ĀeH`_lBԨŷ@U?Ώex>7f!T6=SVCҨ|tIW@pҤZT'=ğifw!#j$7,,HӺ2;yϊƊơPb6f[ʷV]wj^w*~M>
ĜCh1EXIy$zR[oUr3_H(Kv!xP)Qd>ԣ*gYgAŦ9%kebh[^_vOfZЅ<E2BAeϾ[9ZLTї]q=p;F<ÈY>F5YSU9ļOsgpuiLqC8^_:T$#xHH;e
GcB*;l_CpbE,ȸT|3zI=?:8B:Wc7DA!;6c&5fMɗLOѶԥ!y+LYӮ~$JzQ14t8|aE=p^Ti=hIsҥk;_g>O9ѢzauEţmq1kATFO_W1CDdS`Һ
v|SsFR6AІ4.f3u';4DZ|.B%0uFx,Pt!lÆhѠdkS4kLSjk,FxJƕSєK&vj!d1ԿВ0εdQBHi9nА<3jhΫN$7ŧ!J2ӯ*TZFE/z0JWA3(60VP
YL[jry4z*HYb:_g&DäKin:^eYC/PǟmONsϓ|K>/;GT%ZICWZg(_nucSc]ѳnƳnwj*G2*H$L5nAa+$<v=6[%Թ*Ј1FBtv*kr1҉+G|ӗN^
ԁ|.k+:RÚa[5,Fū=zFmgKUo46dzBSȱlvHuGP`qi`4?`UЮ0ϸG@d%xbcpҪ_L<<hș71PVƋbqF&në#([:ZlӃCzqYDMiJՍϪ&M#o:8/jR(G
GRaұpmôz6vc<HOrufJyoQ!(E|LqM4y+e+!aO&хD8SC+cJμHAyˏU@Ӂ)<pyA+FWw?H*Y|%seKSHz=VPƩ`yь~|z3ymU^IC'3/Zj%8cՃ
qf2jJ;9h&hf1=9Fq8fAH$8ʧay_P7pVE8ʘ[GdvBXuc[P[Eˌ/d?z5jz,yfsFJ[ĨY6kqZ>$VtCe_4gp$s*kZRȅԅPbr9du@[FлUWPYA~
`ѭ2VǾy!Jh|Zqu˨Ҥam1L+4NɦzZ2MK<E,/Yц*u^RΜzMH5'mV<X.ŵn?Mqm.gmmU1$T!;6ʡñ_2V$A?RԱGHnc#Ob&p=pԪjwaFWȢ`*DO`[
g.դFH_Ԅ͹ĉ3C`dpCE6G6YR<ѸĸD=5lŕȖtƳTxԂ^3lEuEP+K$RqHI9[58Dε2Jǯ&gƀ1MG<)Ş5lI&*Ņďq@եBq8S&xuԌQԚIjNxt+/Τmb1X,
sk˒.hqɮȭtxQ%X8vʯpq]+I456:MϤLq(27!jkXmaHOĥGұt%gP0$oKJ3yTM^d˂oGawҤdО&=~&E6vp'QA)yh=H/ptq;F!^)_[tTJAϣΑP
'qiJOȞiF]']>3E^|Q@=|TfEZV!,4B'v7>94ϖ҂[5dK!q>~ƴ]L(E8Wvm$=pvQkHXs''H+w|$'i[M]_6D:#N_Rf+=Q~?feq/вEu,h!F
æΙӇpZVSǌ6Zz%+B;d[ʛix38;$Xo˅VP+8qC)ɺZÄh'4W;;MER'#dTv_&Pղ4ŖZEnHy#kҚlGvӨKJ2+2Ԩa[$;Mp0ǲU_Oorq*Ӯ9'^wLuΉ!h
1[j?wM;<aOzQJHΦIժK!Uest_ocku9bΊmY%vp&Ô[puVL;M6pu*PK5U^Gp*4u4(Η1DZϪx%Q@bN8U<j˂ŵcн^v<pƱ~tGlh9b?7W?Edeѣ
*HDO<R8Edeœ(7UiˣUHMnKhdXK;#7uŕ:<B(atEjRu;1aw3:'#G]յos<|ԟ*oI1Zp6,Jp/7qɍ$1խ$pj%ӨH*T1||b=SFg;]T)Ǝmb?PϛW
s3fMjn5t6K2Ⱦ.u*<XBqoV,)H~'rx_Pǵ[ǰGuka/$nNi_ÕjgpBєGx6ӆdwPLJãMD^hfKMkB&w<CJ&M8l˗p_7g2y'm38jN@@ɏŽdQLYWy
B.|UoOQp,9ǁdYJjpjLgfsQ[Bρ5sKO:Urv`˃eҳU7@E7bN<vO`PX6'*G^ĿΖIKmIΣt>a!J6bc|cP2JkaБrsp#y!LMvtSŎu1Y!:4ʖΑtv
EPĔUΛdUh1dKR$!2~KZ,s!Vm>g?ԶYt5&a%w@NBRB':((1Y.A2,L*y.yvM#iHC?ѡE*ճǑ@4vy9J<BO(p<Ȃ:^ğ~Ц'0Q_b҆ΧQLYyˊNEQv
Vя^9.1FΫM~%SK7aþ&ՆD;JpG_[Ҏqk@bL[rzC_GϾ%aG7MReb~Yh[~+v^t!MFzPEvQ)3?Yd:m#VAwɼV:x,5zZSlj<7fbi|bHÔD?@ho'
glFt#gfF/eTU.]ϋen7՗38@Զ#ef?lǸw#+C|Zѕ,=OdZ5>>ϯնԪKm't8(iĵzwkkgO6ɏ)PVuG(ȁ%oy~;ԝŹ_5ykAV#lYӯsEXjB2(cL&#Ie
νPXMB#wzŽ0h|3ZmCmxZ2ǟ5VČctWX9dmFNBRudȈCձSdkf69UQ4KyfSm)9Y5#hPՄ&ļ!Y13HCDc(Gҧ0$1k%g'@E(GBȻ^4YF2Qśk:eBL
emCQ'FoJx1.3;[.QSI[&0@E&'qˋ@KU~!e&KicZÌ0n|ncTN|XA@fqzi.k..x~ǘ1nYGc5,XgA5TciFʼ(N`şa(eff;qղT'3M?Qıɞ'Nj
B(mLɇjb`gQ2a5IrxÒi˭`3Qz`R|FFJ8ӒMRr?WďƶBz˶sVʥ;/;`XV<WNPj;|`[ahGq2*HVY:@5uAo~+Ә5ǥŶAfϑrʊ)ՙTho(aՈ^;CvzLl
'|pXZ!K[m4p*yYn._(]&IP%)f#cЍxӡ?%(p!XJhjkVpѠƵkSRӔ$oü/Oh?u|HA]<()=pŔR@A5/M+|e3`1`v8gsUl4E(:nWSʧsôMS15*
Ӈy+ϭ_ȏnG`B?*x'ыC*yI/TYarh@>PJ_>&z2W;[ј#E0$ʧbЭk`arRëVWc+kaՖG8_.|$ɎΙkE:_*65'WZZC9CăWI@ϱg9&LxlɎuvU+j?og
!&&%ǯguԌV2$#4;nuDcukxLĨU&OX@KTcJ:WǫȞ8BcԷ*Ρʛ2pEthUӈ0vI`owsbGJe8|DKa`_bG?!pCF^<L9uӁ=(Y;gvDIlMÁh8Y˧iha_
1ț'F3ͺ=[y]7vNVN$08ϢJOcVkSЬCgLU,+:sbsw4Cx4+f6TB9dAp$^m%sҖj!H^ɨu%afэ76/sq?nӻ[ΥWPcВA<b(Tiy*$/=<^+ԟ68|%Z
RsU0J6V,fk#]@&X՜0ZyPp6k9f2HqoV%r$B'`^]&xRIEy9ANj5iYc^(besMҹd>HTvp)^hŘ6`H2yU/Ž,/]Hˮxgr@c`],ԷNg|jhԋK4s
<КϚÄʨA*6aġûn83f?.t.j9WQ_VWА6.+]qk5C.s^|S˻eymcк&n+vɥD#ȂcH<ɀ0ou=XMC2ss<j|r4q4YrШDq<v/]a]0H8/U_ӭ=;s46Dt
icESnѳPJw7p'ʼHbˁ7=Nf&D]r%]z=TwFIZaҴDMNRɂj5u,jX7J@qBWRlvF+'TMF>/$$VZyO1[?TyzPT_!mb&?+E'aX|Od|RI~ɖ3;<e
:Mmy2v%E8Uq's]P,dԼ*i;MehGј>*~OBMŀÓХedʂ@<p_i6a^jsԲ~ԌE5u@$0O+!gӬ2=[ɴIg]˸ʾHREC:cp#$x*F`5aTƅWd˕q.(av;mqy
GoI5MΩ@Km)F7hЃum<ʴX#iI7Ȅ&qCϑ,Xh@MsĄcjC=:E<A3ay|o+ZKNcKբӒo)^&:^Bx[,p9$V1lS(5RXr1%ҔE7DtΖEyc4s$˛DYψ`1hC
crl`tť:/uVՒ΀Cfo/iȜvmXWǓ#ty*6M?mlE[#ų7l10s˞qDt)ZKoĩgGuϾ(y'miY+Gyt]'kSMnTmh8ķ'jT:HͰ_kVA+M73ÕnJӋaJұĀZȵV
J)W&8CR9?ǋō,tug7|Cf0a1Y<cyoZǑo˪N_KmdD8c4!Ц7ƑƐDVOyIBϠ5jHҎ*KϕSIĥ2=uþTΕx7D~AՌ#/|,<UYeΏ6Nn<jc=ϬY!ʩT4_f/R
YR[>]++?p6uՋ;%Mg@vao*ɯ6;QG3(C*,oD`Gi7dK)b=%5),[Kn';^H~z2*D.5DEιqp`NWGDDF1roh%1%Ɠ?ŻsxY[#MmbˌJŵ4Yc'VIM
3GaV:ԞSÐ;ǡ<Uǝ^4ЀFZntƷ*zɛs'L?xŞp)_ԍ#~l3IO҄gc9ŝ3MOZo:&YȄ+ÀLD#fPBs@:Xnb)]okr845pӣbcKgG;WrrNU0+HRqjĬcZ.c
,+s;0ӵ#unB9/.T]]Cow#ҩJkAbsGOp|R!stDk`UOzqfS8>$I+įkQlB`A=]:iPLOE59ˬZ'/՚WT&U]qhmA7LIh+_,Qu9deC%u՝f`*ɼ>
Ѧ8>^ө?<l;]ķBQƐWJxM&<Xq7<XwAGdt$ѳFEDs$ę9#lcҟbm'Ր(Z&^:fzϖ=Bif]`ȗZfI?~7qȞSQ0sRnC=jP)u6$eюKInȟDNG]dg_WfO
l^k&I]nmgss&!gm3zd,Pim;g]TXi8j54:ԄJaaմCi3ȫ>5o1a8бJY$^|+~m@#T2p~&D7fJq=АN=(3&Ҋ[9%EVBQn]ɗ/N%4ԛ)m՞ɟ3`˃=
!e>[~*fϬ#LH*b<LĘ|]BiHe.+%Rh$zE&Iu5BA&I~dRɥ33=lqkz(weJw'$IL5[/O2XYnѯ5g~5v#Пqџ$ô19$C9Aſo)F2xƒ+ƇWL5+5^R
VE?E_Zu%8i*hy=ww8ή8K+fhyHd4k8ŝ(t>74OԎ/B>tq?id'lqѭȰ.1JJ%ӌ'4UqaF*HrPHjxT[uu#Hȟ8m?#v>QecQrT4_'opMLՊl2KV
D>;yQ#o,@ҒLAG7bs3Ҫ',Up.Y>R.d7yÂcJG[_;t*C~@,,cqOc7Z$*d:XBȕD9Bm@kJb.AYKѤͿ(Y4+ɳ7ԨZ:2>IeǯӜD/lrJ&Qȓ^˖4F_ǀ
LgK9)BoepK|`ӌHDf)+aʾJ=T/;γ9FDX9Kмb9ίce.ȱeAt'$`oAŕ%δx*Ε,5<'˶pfԤjӴTJJΩ+!(RoI0,ckc%|Рo6A58S]~ZO`(wB?*Ҿp
[l@Yլ)z09VT1>+,M]7]b:*fF'bΟ79O]t#pĭmBњϺ6e#u.nf)E|.4mŝҢ&D!:E$v*NH1Ӫ`yƞui4ϝ'|hP$j;r/]Գaj&M[pveu^7`ӫ*no
iղ?9δ!@2M'>OYel+<?ojHӉ_rcAj'V5mKMETeyg+r'**eh6pZT,T#HhY>VkϹ7UN~s,cŒw;~RlR+L3Z`_'gl8&oќ(h/amLfCi+q3*=
D08f˼UY)fh~áDV`ǈͰve[xKH.g]?]lxA!G)76CWRѮM!Ǖ3BkcWLj;#G[d?(;?ң[bqiU^Wz~#mNRFg?`~)&,$T4|Z!ς6TYtf^2ipӕ4u
PjBz_c,|(pPs4l?z$:lωz=,L9ȿ=Q2pb%64WS2tWEрYcru?KlU3n&roXqkՠlfU!E%_aP^2RbSgtYc'j(yD)AQF^pĒ|Mӳ'ylo69i)I
ӒOvĒecdc=4wѸuO1H7ʠz6JSpOx?MʈFmk1R'4?ʼKkϘu!O^81095UxF3PiԘE[ǴT6hν|N<ʲRh/ЬWɌƋƁіҺKХ9H~|;a_?vHYUujOCol3e_
3pρ3KiII_Aѐ%īW[zE+1hm6#F@0'ѮJZ4'Pq)ӕzr*ASN68SG~=4~0,9Ƒ%Bqf=$?>opх0c#G[f!2|9Ezg2;37m+=IBί:NmVLJ7Ű?;hʼ
0ȪuTlL(iL2F[xpȯ;`^Ԋy|$Fu=.PGB*Th,)|$rc:rΚl=2xnx%Dv]&MS8WŲayÞ=6R+5bDqxdDq2u<TA#F%5VM~.`Eiaa;?&å*1ZZ7˳
WԟMw7uzCAda2z<YŢʓaʞe~rr<k4J?W^e/ː7X22cӃ΂ZDhm+w).FЋB7,F)/ę<8i)Z0|Hd΢E#a`wgjըFc=J1jR:i:HNWb'jio0EͿ:Dy/
>5=xb9|aAd;pV~ȕ0jrTBPsCʡ;dcǔF4k5gC6'wx4$`&Ji>:T,9I9utSsDŴyTϦiZ!ǋKAcJãw`ZɒgUVНQդy08PʖΦa&o1(;?@GOI&/OS
P2žH&E)*bN+Lq(SwM҆@Ǭ>5>#p8HʚUWIɯĆN|V*Qx>N:WofeəkF6ɍZΎԮ3Yjn5O[VUӥiHϺD0#?)0`DwdSHxNeu.&*?ɝglϴsK6+TmuC%
G$A6ɗ,ɘk+Y*Dw*Tg*N5k9wOgo,/j0?S|q1bU%ǱL2#TKor#>PuєR#4=remiu$y,8?$tlFa&/_Ċad4?@Kwo%$sN4#`x0Ya'%Vsҙv7D
R<|gf/8Y79MOWLMWiL52s2XvͶa]Z,@|ıt'ec'S[6my*G=*I&]uc'fJ0w!GAilzoM`ȍ<Y3|ѾzFÐM+'Z(δӱBHd)94V!%v7N^ydW9<y
aLs<#!fԇ|<`ǿiFagM)~ZՈMթuƕ;#ON)Y9ΊŁKHN?ӬJ,~F9f1&1be`aMPzr3H2;Cy+`>Gljs|7ǘcĚΦ$ǹO6F/]EDX:LcFopnIk?)t(BI
`Ke49SѮ*.KUR)R_=[ǴsΛY<[xqE;>Sz]SǟČby)|sw#Gd@ȔSzTTѶCS.UfwRUfu./EĂ#!~.ZK˕3Ш?TylGɤzɗ9Ԣ42]>d;A/Y&$]|V6ɈԖ
N;^+x(~ΒxCEΛtmWt~4Ü3͹KnѬ%.(A:`MwQo(|@),PtѿRVU5!?5Kσu0Bcp1>ƝոT6ƍHw.0HGDCXvcszƇlլC++~c1roA'2YMJpUӾbI`s
?'C4RȧeI!k35BYhxZ<.v!PǞ(+?ҵrNTpbycӟe_C#ɗ'dis[k%LE;Pɢ##0UMaA$mZdbAwckQ|@eəZdj1'_ECȆbE%eˠpgnķ0Y,g_'dZ4
˒2=]7>v*h.U$Llq'XȌwC3j|ıtplDmǺrxh<ŸXAlVB2Gl@NV΅LLLfДFBc'I75U0ˉ@.08x@/R(<55c*5tkȴ;epn;q]ge?13m]1=йWʸ6
e/Oŉ].~q>:G[ϫ=+mLnH΄FWҶKS#+lHVItHcH^o+2kdHfx$/>F:A)v&A(:V5r`Al=|3qh6(1fp#mh[ˡ*=mf*$6SQZ2˲p(g&TI*HhBY
qlR,*MGzϙ7''W12Еɱ7Nr<'ϗw_ʢƿ)lLrɵeє3yL3GrrLՉqzM+l7h4^Ʉ1A*n`5IggȈI*Qe?yR΁3hXux!0/.Dm.J]ϓaHlnZK4IRlK+Gv
`ңq˨W,V6E8fLŸXǲ^9qC1<'>$~LCUx>BakUm;WCM*?x<al0Mo*5.;%=5`lǝiKÈnH'RȏKkKYahEomy6h<AӅ7'kMV^Gkͳq_grZ?1ӧ;D
ĮsωNm87!z@0?P'ibY|1ru%΋Pb<mA,=vuҎȸǤA=laɌ6'lAy#Ʉ914ӘE+ylgM7]wpOVaDS`=KYΌ5?msYkɊƚ'v[ӐO|uE]3<?N1j2лӓd5E
1Vz5Z,'UD>zT.#Б(շ_CtmC.n(?P&w7`m(j`c+48$g(GD@4ՁpN:y%*M@(ħ1Ї=Xi&^s?]ggxlvJK˚аogx+eMu?~˴cmb&ȿpxj7HM0<[
.vLnbuz@lX'uˤ!O6:6tKK˙$)O!Cyd)U(L՗g*ɲD_lZғCchZ9G%o^ɋ[~*[qZzV,(.:=_y*Vl,$tv#/]ď.ԗp~?Ukz]zNh+6/KR:0[y%
'SV]ckRh)=UuHqӁowDAf`c!RΝԐLkn`gɍ#Ő`<1D=nCic[ĵ,gNǛZ<*ջ:sΖDsHqP4Evr)K6?Ř_^Յ*ƔECBJŠkqeuvJo#V_)fiy!=/ԥY;
4<jE%3ɣHB^Ə.(>Io6˓hQtӘLpmAՠ=K1u&sH<YRʉd˓hBfKШȗž_7sˑ#ĀNgZDNzWrYNC.uɼǽLI˨<7vK˓ez`l,XVQ5nТM_1(iåˊKS*1!s
ʄ=7?WAmcw/mplz]!4ɔl31Ak|^E3r[ϧ`=7=~ʱkGag)q*%3y3:+?SM`#Ľȱ7Xmgy|2|^ӳdhxhypMˠx+'ҊYҳCo@#aPŹ$,kǔdC8RSυyn5
4ƊyDmM6>H/ή9;?ɇϸR%+nfr]N[Uq?*caVХ$USӕ;HZ>m'fA~<9ON)/5Tmo+J!esT<Pǈ,CPCryBNPt6|AӀ9gaIQxȊ%zM4~B|MyRvu09
3|fVWpYĖlt)%~r22p<!l@c՚Nb#L!X9ȻZ~*`Z_%NRajJϦK:Mad`ɆΚqJσM8>CYC$ӇUx5ͳB452ƽ#$kRѽ~iKҰz.c,ӻm+ɖxNM;S3.Γ(0B
)G)$dqԙB~rBÿ.mB(Q8ΗʪF'y<*hixpS>ZT^k!7*d.%|H#*^ǂU8ŇJfL`%PEnOȉbӫǀ!VƄΚNwu<yX32Rr/`Gq@rňIUzK2Z'3(O'DQԙ0]
ӱnq8v;)Í0;G.Ŀ~Ӂ%vr:2_c_ʄfqQIt0eҾT5ӶɓOkok7pƄ1,nE,yHxhEBY%P>`@4BϢ4aI#Ѷ<ɠO*l_qFpA>/sBsAx?ʈDPD0/os>TE#S,
wzMhqΫEęѹsüMrMVO3ϴl_,Zˢyӽ8[m]*3dEcΌӤj(Cjhg4#d0~=mFA9Sȋ9mѮ~)@)~Kk&uk*i`gDy`xl1aPH6y;ɪʤ(Ϣ0VʳNˍzU(Ehw+:
AnwRSUt#|<QTQUL!tJ^uwjK:s<bmnťw&Ԩl&'vcSʋqUFFx=^R!C!vB2[=Sѹ6/l;Յ8V2I3.U3*+oz+ndŎ4%x#LSnxx#Kg<qHyEum,U
հk(43@cM]^NrҘ5dQgfq?uZb[DVJiR80OrE(d]5CH2Fz`E~>CϊM·)4a$Xkxŗ_gΒձ<;w*]ejį'ΎW)Ԣ,i|ʴC,wgrh40RjK<?j9H[?ws
Y~sfgNN<3ã)Gηmn.ɕ҉+Q46v&$&6ǛOFRʜjbԤ~k6tfAr?<wwvjQ1K(%!ՍxƳ^ňͷt?k%juo@xF$yҾe061(Kgľӝ;yg@0mDeǻp`C3qјa,)
x^su[wc/$7:rND9u]kչ&Ӷ@^56de~ƼL<|Q~h*,>]v:<Kz.`jZFbc5P@ňϢ_`8Z^hcSwϾ˗mfH~qtf4Ҏb?YA|πy#ʔ9u|vkLZΠRTCBʿd6
0'g8òa'SShZ3)Ix.>ѾkdȫŵEʹZjx*AV7ʦYǧt4E;gB||l4xVm<7LʑJRyϋҲLSqB*8?]:C#[4:g%~ңC.X7Ʀɢʿ$an#cMǑäM/0k.2Xr^Jt
f!xwgxKwȣ9^ACA|sJJyIYFm@LV#aDղ3(#Ń)F64`t~LK1Ѐ__|ĺ*ri'!FTN1ERѱngUKgw˸;G|*^YvAu`YI|Y!yiCϞ!_*Rэi=S90.[0
UA΍|h~ql=_5n10҉ɦƟ~tөÃθ9'sǖujoTakx]tGΨȎ2Zi9в8^lTupo:)nwLXv@1YC_dĒ&|D:ǚ66+?Jŋ1Kl>J]ӌ(,x|HiMpWynW!l!ZWQ
0ȶ?euM4[3ĘclRA'teȌ(0V&#lF]F@oTy0ŅV(TXƛFԕhѨ*.ɌʒΫE&,Efc6.ğ/~d$$[7f],pq.üqe'VüСq(c@ϱoGAdȧLZ[*ezw7rЂ%7:&
6k8s%˚DkMӉʦzW6ƟUcEOѲ88b3%m/Q/_Ðiћ2RM2&ƹ%Jpz(GtʥĲl:ǈnl|İACG`@y0g`ī%.aX9EI(e8Sxas1^0q>DϞbԑEǘkę!&x,JCh6
W3ӱʃ`/d҉ԝѭj>=;N4pE'ȃ.ϡE@yG~qu7idӣrgM`yZqAyVfoCn+W.S4.VyX+Ԛ7!D&.9_I1VˢJWFՓMr[ȡdYt+HU@[È9$1a;UzW%7vWyA
h9hGXY#uр^R^0Vƣ6s|W2cyҗh&ƸK<<yz^gyMԆÂ*IDxNӖˑeSZ9f<FqfCle_>BU3=+#Lp+n+WXK2ûgtqҰ'z*3H80Xv'lі=V(QFR8%Xc
I)&K88MʞÖt2_fVt>]wYytͶpҌxU4Bj^`w1=1ԤŕԒPV=TEWV]+P0IR6+PEq;`E@Py1xF/$.*4ϟ1^mV!C(č@^ȱa]BJ`.a;DyUä[o89[x
'H7t/_Od@XhGnfgc5ɢ_E9@uZ~AJc'gҟ|WFYJˉ6Udvh9WTSGɐxJOӽrzAX˅h>ĴbjҡGSSS&͹l3B.|@ԈuoI&Y#O?6нP740u4%bd<ɥssY
+ȪpDͺrǟWtE1rOmÂ:g>a3;dnU/WH7MWE0@>r1:qfvZQж.J`[m5ɵҲolVƾchVc?]F8ID:4C]<_)hPz`raeJYq;`Paf;γp#R=1ϩGv$kH
:pyCPH'Z0oÛ6d$U?+3K/GОg*`·NFWZda9'uяHV+Ow`wΫ=nS~5nOx=Keb'UD3LpƁw[8/Ѧjeс7:8ZozBWG(SA˙hSh>6)ȊBYȓĆbyԆ_ѻ
N^Kyu7*5ΤĊ_YŸm=ɬӵbMnSw˼WLD/_=|TK_$ʑv]PФ&ERrлY`Т0IԜf5uŦn1cd3_z~~i/Z!ǜ[Pasʚȕ85Rifx*8P&FO8%AQѹ4(*'15)/@
usRTB:_ѥNK+*[V%b^FlNӘb]ZzdO+=AFfSi#(CLȁI7Ҭ8չլ,?fwbU^VӀ]ӭ_2|YGD]>VhW_?woj+.'?Ɯ!zcdͳ0PWDIWWbuPGIіk&Mx3
Ɨu%^?]7hhl/^`OL#0rIr2Ueex+.Wb16aet'SA3Hkˇ=ʰb2,4XXSαj!3LՐFWЫBtЗlk~!Oe`˯5Ғ(5WӛK9Jï88xG]VAɑM=hlf_@Sn6O4
`t'^LҺ(kCsҾjxY_H$9*W43QUb;;k?xƠ&#NYEEzp`X?4;Ԡ$)Re0>K=<3Yk7Hixs41uC&ifW΃?<Ui5OiW>enpCoG2RpU;RAY@ZzQΚ=
gZU8!C$&+Q;@գn]xIJԦhΣbv~ˇf:#>Urv7НTPzbѻVA=_JrRuн'ʜ'XgLT>,Jνo<njyƧ<am3WȜVXsv%rџ0Ș,Fr(%_yՆN=tn7Ѩ#ywSPq
ƨe+hBԎ1&ґEZmN9S|*zc'I7SVvSY[h2b@ǆLLXuXN|SpG>&.S/?ƼD3l,NDL:G7,#ë,a]|qhVg62St_CN˟@5&wsNϺ4,K$f)!U@a*2Yϖ
=ʗB<)kdG1?f+r9_7.*D4ːXfxѸ%fnAX(skjZy*UI>B66P[K<lrr<ξ&;hPԱǜ<CPЩŕd)'~өJC>),WĻ[z,aFboB4'J@9tR#jzx66G5Ȧo
tOO2Ag)'K&I3R^6kda`&X>OKǟODGix=^l)>z˰ԝbO9yR~Ptb%3day#U2=4p@|S/!iZfqѕ3ou*F%8~yS/V)C]DPHOj8ʪz,ZzjqȆNko
hlbËM)?.į!cW'@CAaѓSӂ&ryl&iwF>s_T[Hz9W*Z$B,zC_ǙjX5uwˣOvɭH~W3?f[RӹiEmA+4^(nx'j~h5JK;WG3bΔl8r>se52VO'kq
.ȶT&7UMvKTg`ktD@j9$VSFuʐ~T3>mGsEX.lj&b՘BT?T4iScswh%pHFNl<qϛjC$oP`79rIMW+|b2K;ƔPʬ1G/]%5Nh//r)CL4w3i&<
u6С4Ms'AfnӮ.SΉZ[#hjueψ(HcłuO=Q4v0%@/hJ0YPPogiNq+V*T$)YHb˹QH`InƫՉd$p$6?M)h˔/0[^+bŭKKQYo6ŏ3>BY@!aƮvAc^
X3F0X>V$YKS]<bC7ŲcRTk4KCş4B_1,5Pb^Ϝlr1rA.G)zzb3Ԫ)$Fzӏ#|Iȍ%jQ˙Ñ2eY!η˯pғՓ˃%jDN_OcaBlEy?t<hpԩ/ykiқb|&Y=
m9|`6B=Q*.#<o5C&hBE8u:d+w1p7>dƳ;Qa@K<S0˃E%a)g*Lv6~w|'ӡ@ĨӕϦʢ5u3zΆȤ|ȹF*9e[lZI4z'ҺjƎ]ouV^Bx7wWEKCw)a/*t
h9/'Ga;5˂|ρ)EvǥyQkp7%96:Vf$exRFH+Yrʥu|ędk4xlz=ʍCG$/ǝqeY[M˞,Mdj(|ҟs!=4&Оhx=FQNO<.4VƞJ|%cEyVj$<ΤDecAZ_
Hxӣt3sn.y0Xaզ(ѼMK~V6Ӥ`bȷ~İ)Қ[|kp>nHϐ;H`PAvMQ;eE:K]9ˏ?Ʈx5AWTW)GfmY?$լu`#puYh3ӍǥPIj_uӈ8RVK)GLvvIPp;Ӆq3
SrDT|նFZKKv60,U1#tGdv+z`ID`Sspvr,Ui~ȑ?rgDbļe_JsvÓihjUBH/SxpKcKYZGЩYLa9['0N58h6+kUbbOi'~%hXv~GM1K+8(i
'/xb2Hʼ[OZӃv<ҕW*JU?*$ėÝrir>r:Y`PDʀ#6ҌO9GvӚrMU?҉ǝ.E!Hrk4eGj7%sm(v|A`DûEw)G#%Tv9Ou˳tjbqg09Iұ0mRƾf5:Zv%
>0%GbɼrJd73ĦCDm0L#g%.P;0ZéhshTΣɮw,#G8>a1CblhW.v*!+X4ʱ^;ϗ^ŧӕ|O<!$e(;+L.r!bXFz1aʮ.f_cWo_QdOʞ&zySEiƙlv<
wYoM.aF6+t;oW=gI5P8_a+Ȏ~o_*`d@GR%d*?oqRɡ&s+&$DkmH(qxVѿEra?*%u%oM'5MJaF9gc9Y˔`tc`Ԥ#VԄ=O3'J4&/,wXML|ąӈ
iZ2ʛzl5_˅y|*Rt!fF;WD;eVCSn+k%(CMd!znSәU.Wt$t+fǄm]Y$lO6Xw,Iȧb_ѨAvH32rUqͺAAM6RɿWU%T_g,~sDX=Cd7Q9[)(|)%
j'Qj_ϡd7Oi+4]@+bHwPEuΉ=]%&yyFϧ|FY<QiCnMsVǗwtv3?6tf~B#I']GzBabZU)BԎOVO?ȢnIÿb˂Y^?.qWƉѢh47vXaJew4DiR.L%
R:qxu˞J;4r]mSz$uyT/s*;gŐG9|nv9jsQ4ʏ*ňvkf2ZT1bt)ƛ=P5X|gX/oa`xgJptELByWWsOyB'I#~h8nz.iBŦZG6qGWn6Ώz<ϲOk
51(zX0Vy1Ec2jȫȩ*ќ*pfn]Ƽ|PutOVO@6˜[Kqwźc7ǂNWn(MO+2o1qF/P'OHȀY[unlfdmqYHͱԩl%R7ZSb%XkmIIϥs##йiQJR<^gK%u
Ǳ%dzpdX|hUÎ4@$ǍV$NJsSHBiў<d|UzCX+Xle<.VThLx|vo*HYBOlRppͳΊh;O!$U[˾%K68c%l%1_ёg1HKȴoSrBk8BW@a>eņˢːgsWG
zmO3iхDtϠ#.v+69q&JPc|`k<n=Q:xKN2˘_TQ@UҠdSL.$AjZ5|L2^'GEҩV$(eUԔZd`bw@!U;71rhn`NPcUj|=ɛϹǛu)Qo'`?)΋w!Nn
77&WRbgDm())BFϰv9չU#_4YI,fE*k?e&YjttV0xē[e1&?i,#CtAOlyZl*EiO56hKENxթjRJ77Hi%t9;GC;d0boiS<.bԾuE_()X*h
~ecfnJPxLQ)70R)t_BJhBjxRiq@(mkmcwQ%RdCZ;$dgm7f*>.թb|?ДήXlT@|smȜhHtvL2~dKUfn0Z~piB,<BeQ3nǛgtE)M8y;ʤrr
[ՙ]<IaqZUFja9tqώoVQzк<SrPԭԫDYӉJd$oi4pO8f$RtXGqgqC:GK7Zden;0rԿ*ț6:=MԻR~ԻeZ9PT^]g0RKlN&7'0J^I=ld3WgF<s
BYK(UTA84.9QN(k4JnWU(Ī<;Z+]4ѡsզC_˹;7EΩάx`tgu9+9%rrS*Qn~y1Y˺<~,t^ԁɚXk2QѬ>7/Z>z~^2YS]_d*?!Hϛ[_/8N_>pt0
m;=0W6Եj`)9_~T6LATȨWJ`UUEPjIX;T`m(rzWCq=6*lUU(cpSOr#%4=|d;Ggղsh^4Lilt[*ԤƺM`|^Zd;N+:ĜG..ų_>;LʼxҾȓ<Ek7
˻NTsG#b_m6iq%]Bʶ_2D'xOR^ZĔ`!6T7RvJ1FnQ>g/!Hd@zәL(CSJ>q3oUG0aK:2_K|WHkhVZfQI<Cc3XEodpxϊ,U?Hs4YRV[Ք]EV
(QPYըҌK7t!Tzy>lǨ$&#~Uqq,ŧz)ƅ+ɵ5s(.ö5&NĢM>5!KIupqK+LN˼~xB76%їqo)7]5>Bvs.x+bl24r~n/fOT|1^.ne(uUgSli;)J
DnPzW8NWiSǹK&yMXDՉQ42ӢZ)sTm>LŞ;NnH.fsC+UmlEԪ2T7#Vr2a;[%+w*RM^pv*TɁ5va;t7|R?8@cӂ@JHӆS[!CU*'/k64ˍ%OжLK
jĊr^&9gΡpP`,ɹ~h+B6wɂsk.4s`PFЌz&Br=4#IM,Bifn4o=6,~b']i.'Q=oc^?~P=ZEi3Awr`EĊ^GZFyŮUwMw=%T55%KʷJ71cyOB5
OH5,62ucѳD~5˲>txKќj)1R5%p10jVIU>alZy4wBD@Vʁ1i_n%~Ѯ@;#?HtW$ysqÅЕyŎZc#đ<ɾz'Ϡ]W1yxѐz)c&jńwʚ)`mM]<8b|ôDF
$'wMʍφH2OPB2|Gή4[/=8D'bt_j0C^3ͷwdt0!nk^<::͸X?/[((fyg9Y9*6[KjC_zWz3Dl%cpcf*!ĜtxdP/eNDz_)w0rTMGzeW$I;e
Hw8KyzSJ.ˤp6jFmwP1XњRTVv,otETYOhn<ji+gh)iv*Ӂƿrm$ӟby$YĦ10ɉK=YéBNBZ]y͵:!=w)=)l`%)Cd%B6<#f'f7D2@iN8Dc.!
k'iW;fu05_D/maqYHTFRcӲ|]CjԈ;D68>9swk:iɅuiw_ϬGb|T4l`kR]7(PMw^ǈկ7fhP7TԒmKqeI,ρ;<Q>/5`AXEcj;LVMAԏ?60ңВ2
,S^B1Mm_Aq)sA.o;2)%;|Ta0l1΁^g@;ϹzԳ!Y@TtnP9cf(&j)ɽ9$BɮPC0g!zQCj:of<2*Mԑf˿N'ͺĝDS1)n1`(tĚW,ɐa1y>i@6`fof
NʵO&=bHnkF$)ǳ/nIΧ͹Zk8բ<Y=.0?Ooi1E?ȝ9]q/11AțÄr^IÎθS+ugorcO0h9!aԮɮR2I_Nȯod&'ǌvQG˙WІI|ZʋwĢBLBVnЍΩԖ1Ū+EH
UbKDyЇw^#I'CHÇX<Ӭ2*ÚI΅ejBÝ1pɜ&(o9VΌoP#Xdp<39ĄYKHZ]'!n/ŞLΰЛИji?Sþ2^>&4d0Jǖ5`wHϭFt_f|'R|ԺΞ#tEԖH%QcU)S8
ISk6Ϸ$Uz;F5o6oKΓIOŨ_fԶ?hrqƵ**VGgȎϹ(g*԰j͸BlL_[7ǴxE˥x3R+eApBҧo6Wz7?bAoҋȣezj,#2nȶu=1TyFKpr3Yˡf6á?p^xe7s
j*$&$вkB?)&pu҇Pn#˰VmFM&bgAKRLK/PPPDQʒSf,4T't6R+..Z%p<ˆ[5,F8zwVIաK9l]qN˗,|TaPYI5NHD92y44Yȉ%j~LJsn^x]L
8~.CѳsmkX2;w#4UqRɔAͿj;sDEJĉʻ%Ԏʠ$D,UƟ$27duF~`.08q/|@Qw=Fbiņ0NZXc>bbunmſuZTb?=h7aҠQlt#xXJJRʝynIȾFv*iLP
+D.[~'hlT<h@6eZAzNEϭkRbj˥qU&X:?O<[!`Wřw)K)JAH~|ҡ.B>͹p<zx|ϩtm7@ny҉ҳiUP.)kxWE!#!;!>1/#(G+.iн~>U?PI^8FF
,,ΡtӀ`aKZ]q7$:HϘo|VE^0EGqɎԊkmDnuX`2&Rc8#pk//Xh_%@v%#HW6McMřdVn>~LtoJ)EhuF<JӎX!B(<.ɽKiqԿct!CWΟx0ĭo@;r
/`(WcsL;o$$m@xEzŉ`q,Wf34x;Gh%Σ9tŻ_lN(Jq!+:zkLl39:l:S~6e>Wc`^E˵`FҳN#%@OCD!fHǥЬ.H<eϦ˾NuzեAАM%_/DC~:Ţ@:
d,wtѨ:8n,|ȲʉvV$qԃǎϖXb`04A:3=>;,2óZĆF'dÐ^pY!<Q)E2Qv%pq՜[D_,t$ZIYEtGNyZ#n՗xv:Z:ǗжF_aO30+ÿՋcM:+nŬc[%|`ˆ
)N1wk3Gғqʿ/qkPk|`@e:K5?1ĖPkzLlti~/hxm*u#tb^ȜTAO#Ek6҉qN*]a_f*g(LN@*8iV*#z%$3^tw;Ʊ*Np_.)<'VavLbZH$:kԟT
F9mqD<Cp||WRID]e!Fqs|G&)z_,HyNp#&Wbtu/:yjɦNKt(āzӉ(8A0%h>@$vV>5wI`CCwDȦ$c!w`4'_7F6H˔dkBҬW%Ԛ!bl?]BhOǮ>
ŏŧJHw>Q3οґEmhtJ?so%w3lդ6tpgvAzE]s,Po@VXчrCbEȜʝʯ*x3=pkm>Zdr]z=Fmid&1^ҍoe?x2!3JɕI0H;Û'rMWbE,o+]N=6)uZű
T(RtIr9|R|$pAM՝264REʒs@q>%nԀLG%>sЬnpyƶBG/z/W4ϡ=2Ǯ+X0'ǲD^S($bJ,DBǝ!om$?75hrH~ZЌ*|MOnSʛ&u@.rCyBV|$6P?=
yyw#)Q|DYb'p'%r?Éyye7NIaQ:B>ҧBÖyϻ^ry+p$ÁȶY.%5^o!]50R`u!ARv,Cșk@o+W^qwpRtnNv՟T7ŝƥSB;|21&xTcCxϓ(o9a0Y.
ZXR6M!ђoOjvR(D+'źT~'wiO,sǱNGNwWba5lU[Y5y[4+cYnB2ir2o|JI=L8/Eχ4nmN+XyjFN8nwW1`IQË'nҹ˧[Uũ1ÔqϐLjOtW`BYG
WMQPzkwfl8^x|Y(l4;4UpG<՛=HOAϳPR~(Ǯ'Pf<'Ki@>~+lHx8_k5~OV%ɘ~ЕҶ1:L99h[ΙRFӏElZ/:DtEi$eE΁GGdӎn#lVk6LeP~eU
@<T5mq^7Ye7_Aʲuͼ/Fox&*6ϭɫ;ԛԬ4*n@C94Gz&ų9C^lˣZ;z:RD^tI*;.UDs^nu4])eM]>aj]5b%`sRxPlgǔ#['niP5YůXHnNEfm#
46@6ͱBH@ff/кMHƺS[:Ug9![/:kiI9ȁ@NZ.]X8eJ:WmГP/0ĤEl3]FmMceU[xWKP|X'181@&xU~YGǎ8vvyՇR4,ċpzkGt/[3rκPf+@r
Onuz)գ7H+Joq|gE*.uNl[ŘtwERXqC^_)ǘW&lU.ǕVR3b&4gWw`XD4&qkEɩasT95nI:G*hhgb:U1hfE,~ϺdX`/<A/ѵ!bfDHjpZV!ë*
PwsgxkGFZ(ˉ6$>?T(nI/Մ%IuJzhc3ȹcaW+_d`Y6$iW3K*8c0orYƆMXQ<Ǭ^;tMnC)'z?]OX5;QaW|FxlƞSO4^^BЖDt~<1&a%M]hmA
V(@!n=7F<)q'C]I8f]˿i%*YAM0Lu+KB1N?1:,n)DϖS5c(#͸/9&Nȟ#)ZH˚MfӮ^,ӻKD@_bkl5jPAK>`(BmQY3ʇUn&phf)Sx=m'raѫ)
khMZmTx?I4#Xf5ՋD&0%vC.Ӭe7oN6rfmYb]YJr6*2d!+I@ΰepSP*0d5C%7zEZKV#!^r$1yC8zŒmÒGPJU5'~lCNKˁӺ@1kFӁz9EP˄g5
QG1cy#Ҽ,OZ<3%BoφW[B/4%!59ty+Qѽ|R*on`˽^Et?AƂXVf.NEZt<tCDYsD5H4|ZÒnm8L*p3DƄQS+ůfz4j%GmeO#z;Ⱦ2Dlu&|bŽm`
9(Бʉ12h?f*Y=qӊW<7Yxɺ.bp_ɱ=[WˈJjKCs1xώAzBáƴUZvǴ[%MĶƍV+JasDB_Sl#k[iMjѽl(pA:H!/dg#%)4B_oԲ;ԍYVq@B2ԒXT5sy
rmH&,6k.pr<ҰkR~^59Ȅaɽ|HZfˮ˅΢535ѹ#U<GsBHf2?>a^bsǥAd(<6'D]Ąծûf[c+n$HғiΠ)[q%+KǑ@ͷzˀ=,06g9$mBt>eY.GL%HYj
8bZ!+|8wn+C+&e^Xǔ.w^:˽K%x`*/f&ѰPR!7Jq<AԹe`rzo+nYapI?J'nkE?EL6D.d1o5[ZaKf`Id*9ӐPз2gJvx(H~t)J)ʤð:#<j#,
7G7ȶ3ZĠ*ta>`]hcHgα<B%npѕGNՠfZ~ѵ/QA՞?8Ϲ8*ӆiԦq>|T0ǣE%Wg@H_/*chCoq06~@f^`|ˊMH?9M9BǋՏXE(uǁP)9#pXm%g4'[YV
ƗyKd+H&Q,|?,AIys:>eozI><2zXԣ#uZb͵252ZSD?iV|˃6.ti5u:Øn;TiVJs`M]>3P/_fIv_[1UpMhlƺMɅ4Q>|ƫ3SUŒI/P`TPt;M8
6)Pӂ`>xxVl3J#G>6ЬX$/4Gg&)^Ԣ:ƵY:#IPGϞ϶=ʉ15Wm^u0*]b0dN_<KƑ2:U3p@P|9LFϙiKi,gODT!n_ժѤ҆gI@PbYɨZtwF;2H`ȾQ˕
Gfch'%jZ:iuu3m?rE]Xl'=ZN,Uz[ճBFLbR?7L,JBʖ#<$7Rhmė|'gvxjc!ȼMW4JfL]c.oUmCU>NGZ&Zl:#(Ma!Nu;8ӛm]Ko>k5os*
մXsditMsfo7Ҍv),^#5(1)Ёl?lIpCo>l8zEq(ЃaTVՎd5Tq#EX.S~=%C=bAE)c|Es_B+;O(o)&SuhԥnK_OΜ_IН)6WŒuEZ6I/XΑ!/L[
<oA9`KL9J;κvQpNJ7xV98K%TiJLr7^_cšgmsPc%ĉӮaμnY75JRrǓ(G`(bͷDIԺɃhASj]Ө$>:mxm[Dbl/y1=f>Mɝ%34*h=Ŗ%'kIuZZƫ
EV~lD.iMXJ!kDyq/Đ.r6E%f[Iӆ?w;ԖLZ8TnZ*`r~l|>.6X$unUVHXG9*hQXFˇ&t28oϻ6LW^#ƞI~TI?Kuc@9AjRKNMRnAl<ȌzĤV's
zx86e,*%;QJÙǰFϩE>SQ?6@pMGdDc(1sb9.9$2s:(ΆwRqO*m^v5kfD0Ñ>rVE+Q@Ĺ`aCAF97$W$D;F&Qx,z*Mjb3҃ѰJ#pPyG_?NP<ǃ
uBTvāhX3_(![P`,9lbFFLKҀU+34YV,OșjnWA`x`RwK$[[7X9yPҶG|'^ar^>ű@L_ntPH5ժFlYN3h0at$c]QsSՄ/^ȑ)!MqAO&tW228
oSOU)[M]ѝgɊS9,ɂ)QwxP4/nbb>iƸ:t]eZ1U(`)mgԣehHɳ˩psV:dD8Z3Ȇ1rO7RIOXy@P6,1.+~$HeX:FlxD!ZlcJzn!szX(c?m#O@
ÆNbE3CwQ9K0#V,,r,bTBNxAQ~;&a#%[1Oի9uYV19im(,щ'IE@#T131&Ktʿtur]o&//ogrl`Z.5xMfJ>#ADs@F6h;$xˢm8@W.OǴNq
PRdZ0N|ifå8]pJJ˖6St!xAQnM3Dkv3kKw'YxiDŊ9~pd'#]^Z)@j΀yZgõzIO;svW@M*RWY&;X2,ŝh7whɵ:+pgyY/u4ˌ|wQw2y8*%@
K*R!?tц$Ҁ!iɃ18r>w:mșU]qg˾MgȽywUpS`E(Iķű1ΦLԚ@8Y/ϓS2h91kqqG1WaYѦ'h~A#x[fȠb)Ϛk!skėt;*>20w4a+X~O9ř+ƛ3Cz@
/:_@A@#?'Gx,B)5IE@v`%h62[rVP@^Jdd9;vPԺ>~P[m2!+3fUGƉgNl?>r1U2:eOAdVTi3@xgʷ?fСǚ9a|hs:zLyVN/9EBg,NhoL7J
)Vѡcy$<wY!,kRhEaqU_>JC2/qRP)&qvd@8'W5xFҧ4+&8)nŀR@R,Z*/*4pFMXЭfD_nM1I,73^^vɥMaN(HbnBb1Zx@kI+%mcuнȗCԂO
iqa^K'[TkszաP'WH2a$*;'ZOr^0wjsIFm<L2g`.p!:Ag94h,ArȀô>+ǻӪ<J/0(7ЇAKWdhCNȽώU/ryՌLZՓnF2?ê`k!!VZȎ+҃Mνγ!Đ<
Mn^>8J(Qt+|,0fG1EA6`nXL~C@I9Qɬ՝VN9J%ѹҧ7a&lI_eǜ(>mnf.zN7i0!e/1a=o^VqG7ÙV7wjBNt^*4zHw?VcGpPFKŻVɹ<$FbiA
,EFoah@T5Ǯ7cì<0FM|'mVy@X$sKuOdjgcaK=՗JD˫(Iirx.mfHТǖg]Et>_շrv0gǖ?'~1A3qfq@%eu<IOdlFyJԾnn]p#9VҪvύ]tspT
pɋ?=54laԌ;~@mb_?n`9YqYɳɶaJƚxuaԄ8Rv<ҷMdkYU`)1x0N[0?iOs3v|yЇ!(Su?2NV[,M:m7X1ˤ^Ry/?.þN57|B_=@pȝHƾax~CoH
XYyZյIhɮDmE:.d^14n`7Ե?@сɤgeϑMIRVTtҙ%Ҽ>ԣZ<Or>Xę0dn^RJ;Mq;USW]d!2ik9q0V˕<űW$SӿUϝ>q[G]H΢oqbLR7Cx5v=`1З.
*QCSǣķ5;Zao<hrf&5?u)ѓʳ?kaIŢnǛʈϘȊeĪ;q9`PՎ^^I?5T1%nt6.mWó`@cSkvL7:TP&bň$ԡoqbvYjg4Py>9]&ß+TSMKk3iF[[TDW
B??8_nl˳bYp@$ǈhmD13h#Y/qЕ1UiՕHo2t&[NcZRFgzsy5v5xəeGk%_ZSȇ.'r0+qVf$PLΚGjduʢaM?VG3õʧN:IΘqDzWYYX`C'O_ЈO
(>˺ĂPtɀlTiZ=>1Őo^ʥV@l2_2?*SRUF,;ɒ#lG,Zw3e!3.=L*mG#^lu,iƘ=NYȧu!6@E2dwA'ʉ'$3Xtor=]ɃMQAA@Ѯtg:?o>%ɳ'Pp2e
f9DWϗQHtEZ5[?*Q4Y%X*otcQʤp)ʸUjhV%,E!#kl2QJ0Y^q1@VMӐfF_,Hp+О?clʉZQtm`0e.?'|QLZɮR+ʻw._QQYq2AVTL[lk:ǔģe
t3Ig]mȋj>ĵvϰ6&e!eҺrNfz:<J,ӮJB3ѮZ[RgE~d(8Cn3.Ō#%oYR#ne0iHmJ6j3`~XRuY+qaLˈԞnDmZ~1'Z%kj,m]ɹ5(TAZ2V!uVeU
QҪTurCtCONĺ_,mɈ15lvm^rcZť~YvzI2sfL:pBv4dPɨ>7`eNaS3W+G&VІH3|l.#koX4VbpJEpBsfr~7k'qBԒlLPYi!zRH7~ɐb4fU$
oɸE8@04TU%7YpI΄HCɵQqjl.IXȃc/Vǥfm(ohϭlY&Vsʅ1ʙy+I_ʰCa.[SE84vч_ӧU4W#=TDm[JT,[˙q.TXkDh1~AJ@Bԟ^дӉ_473g$#B
5+ǑsB+l?9Zqȼ44qvt>kd5die$AF3ՉK~d(m[|ն@hN;;wnSMQ)2+(Yԍói&,CF/N|ib,)H2H5ǃ&S.f#Hg.;_gvT@`_tKQ`#j^;_.6[u
gϝκ66zT!5.65ŗ?eŷ|˅QMu+Gu+;&_32VOjFЙKvETmȚu+vz!m&>*ԓ4YU~;tX3gcbkЪ[&Q=]?M!OXVV1#N.^M`DI÷..T3'HeƜe7cPf*
ePG#[T!h?*ӟ4*5<??*Zɡ1c2#:R~<H;uM>YUiQe)WyMEuEM<wXYD_*LĽɰ`8BGgmTZm6_KP˦NBd[fğ2÷VLCYlg6ĸI`Qb:4Q,.:ՆȒDđ
rp['Yi~Ұ0Dʂ^eqopFdΖ!V?ѤvVDԓ@%r@x::`V1J5odGw'xAѵPdfh/ѩȂ|KiMe8GS,Oaloɭ1<wtdzHXIȨH_.IF/:T5϶uw6'u[CESSfö
rN7qPO+EK3PvI.6G/B6`f0WXXdrz~]z7=)&AՀVX*cs#ypoalQ.etPc^;ӛǌq~(a˜|RRAʶć5Ãp>!)_)KжPzxIUc5:>ŞԓG6b/D!lNZD
;ãX,7o:u+kFųӁxsr7|Pw54Q2o;BYGBk,?dtʎ1gKml`ҕim,uotL?g[([Nw*EeA[64f0Ijc4RQŔg8YFe:EO[L'%~vȆhTw/?]e^8wA,
x~H_ҩ&v˾P3wC$0~%t:C+r[8A+r[t6˶P8E[)BZ<I]B#|ƝL]a&ʵ>'xrHgy,0>$Hīѐ@|B9Avb#Й6v_FgOѹMF.nĿh+Jk9^~>0n&q;XG2
ά!+B_^!rdgt,,Ix/SEWxUGO=8$67nOc0y~ҚNRяƓq`On`dV171ϫmFRPQ8<BqƵFՖ']*z&մR@XWҙd~CvkuθƼIxҦ:+~9$!!ZwgWsvVEp
;ȬǛAFKmCε;$ϵUfZq]ogv!_`1΢,kHtRnϬ1gʅҦhԅs^ʧEc%5ue|պӝ՞&X!vP7cɝl^LwJOʔ>z^l1?P=VQ3R=uq(l/9)Sfgf[FǖD/ltpȜ<
Yn?%|<WBC96_SK9;|@!Y5Dg5ƫus'5hʑIӲC4xsl@I|+_Ffl%.:Ӑэ~1^m<%`]F6Bv]z#WǷϢd[?v~gL/&XJvw.:.uFZLwvbdЙfTOviJ
KNe9MS<e3ĮP+JͷvtXNɧҩa=oYPcaхҜ<foMw3=81_,Ձ%'bM5cJAK(kfV1=1D8Q;mxqY8_N~dlxCyBZbmÅ5GO?!bΎt&_5B2*&LUbRlB
[ENk`NLcPJ|êKHOJē+rt/SЁ*@IAUZ.Cav5.P4:DeiJc^><i0OLF&bh3eouY^SyT.8_'c5Űc|ήc$ϳb/AB`EGsNKЁ)҇SsZ(WeÜxAΘi
06YWBM3guʬ<x&hǋJabBe#/pVR#e4LHӺT|,^t`гPetҞWt':&.Ps#ʊIBZ|z:'_=RN4Bj'fuYJ'Er3ɹs%_[_q&]nW0tOL#vU~^Eɉ>cζ
<9B=?qbWQeEz5ŗ:tRTQɒqGΫy<;R![JoK3n4IʖgLØ3ƽsVʭ΄qxz΋n@6#Ք=P6x+ӷ$D86>RϑFŘc(C)z'sh˸x|/Gx˧Tm+wg)4Лd;;ŭ.dD
70vŔn@εxt19(RGr&6Ɛ*K:<j6ʴ+V0[S&:MYAggv<!eApǥoIdSnԣx[zщR2*%6q<ш͸h$YTbOp!_:˰8/.iJ1`x|t#>8]X^0(+Ov9mϸEѭ
a#0j9Me,DѾFգ(ƁJB0WΧ6^u(K4[:'n:WӴ5w5BS:LCѿ*b4t#:lo(u^O?yh*),fVR2bt*@`]B_Σb@GU2X`śeIEҘJA3=<[+@NxѮ!?CZo
LѾe0RwssM_en~gq7Xq?<Ԇ*ςC?I,0ǗOoKinTd||&?3vkp!LkhD'ȅi,Ӛ6B/dLs(nR7;/HC]>mQ;sNϰnZ/|_)N]l>;œ:Ay6TP:C9,И*
U3z/jʋuŌ|`KǸbq*Ɂ+!Įx7CAʇW*Uy5KBn#pST|;V(@JP2dą2HPž;0TʾvO67ε(?(=:g42>c=_%9*an'F.DC)!|ixqgUy/IK[!1cHr`
jLѰ%hXʩz!QɱXW4[2&ѳ(*Q:mLI6'SyiQɿk;c@QuT!ԑ@rG$23^ˢMJmHcHnyſBf4RWL;/_XϕKzpegdҽ@a81cR`|)Ɯu7XՑmƽ<WJb|f=ψ
ԓdf.1ʍ).Ůl%XBmkC5P;n&uS,cgUbtF7mN:0cE$GoO4Ly_ώzo5~&|$H3;ʞwՔ]q$(ViRZNPˀ%FP0dMcF`/[E?)T>QƩ>jdy)[8^<Ivr
z~#A'˿C$0,P2DB::$JS~'gUcJVմyD1wȁvHwjp>_^~$k).P]P5%y5&DhT,Y:ƀD[/EiˀGŖ=UլI4@Lɠ!.QX)akM'=!M;*Niɳ&%uobÒ#
=|*T69oĔȲ@V1a15ě/<s&[=sՁVKkuπlΛMȍaa#ta(*?KVG;HHLoƞ*(WrF6qK;e*8S4Č9_ӘhΝLYùű'q8Å[ŀ?2,õȲTԔ/Jo=JR'ɉ*IDċ7
L&Vt>9IlctD?zVB/V)KQΣjU,NKaw?V'?҄9xĹd[jNu[BH!ԱȤkhQ;wu+WbYԂ>gN%y'.^^Ŕӝ]UՆo=6:$J^ěՕhv|HAt])Bkǖlv0'SӋug
1ASs))R;zM8sҹ2WhMy՘pU8+1[RπRņ[A%dIHFFh;y(|#`KNG1S1Jy7kNEӷosjcbL02w;XuZyI|ź2t?vrdR.%a^4W%Ь9curwxdW=:<
жT9/GCґӗ$WΗh&Ӛ[(M/9`R6AvBu.QQϧǜù26a|Q^(#r/f:юDթIĕ<_/?~9HS=j^K`MrȺT=mW6ZeɁ_űBl^`75qdov>TFH҅w%]hy68'4(
1hȉs&tkJ]F3RȻx|ϒcҝ5@wJςҫrѨ3˗XA>ƹWYˇd(V^d6ǩ(/y;~p/E1˴3ak<2`@&7<&կ8abd<[^vi3Lb'sFR,p7J<,F<WJ>Ůǜ$zUy`vg
Ʋɠ$1Бaws;9=*;+?fA*eҡX]jL#Ө/x>@sgrug8Cҗl(T_Rqdm['BU!F?r8nT4Ϩ:W>1;H>rlβq?NLEim#q6F(΋9UBifնT11S#ea>/;XH
9r+5qғyUZw*TybphAN!6|Fκe80I[2HP?P=GlͷPoi;ȱAaCÎ*dsJHV+YY).$1<UxzŪL92:P%)UU5&i9KJm1M~hrΔpdn˾o|[AtThbC<
ӄYpW5QdMH##2/a/=Uѡ8H8'e't~LzCMp3˅~6SaJY0Z#Qm4'8Cb@D5(b&x$ՠ6Y6ɹqԎūOAqDSy,ӝJU2dOSwlVBEɌ;bʑFKpNACĿz˔gIa
ζSk5J.uǡ9F6/ӇFrZ@%cS6*ÜxAƇ!1fCPw|82eV!5OYd$2OHnYluK`ϸ&GV=ZPpă9tV]FUfge~?Ɔ^1f]QӞaÀ*cAh=olm|+ocn]CKѴ8c
MC1rz3Q'B0ku6M2>P,C[JxaaUq$&o%KoJqdjQXNwyoo:dyM^:22%^O]S'ш`*X2sWq(Ŕ2ml=K.ĭyÂS(h?6fyuu=w5x3Mɽm9ľ,e>+F
|PëE~YmˌZ&00ŠQd[xdE_ˊoYStζ>9UBkw&Ü?d/~ʉ2ʒs=:VGrP$_1JGЮЃdi3T(Vql@.]gLrZ98ѫj5I:˒y:BEqŝ^oʼi4Y1s0I2<Cfjy
u:G&_pv4Hѭmb,p7#.MLcxVO)3Zju[+61[Vp/.ū<8b3jSVQpsϐ4C6x$FѴb#nW<1S9J~ҙ?ԔH/b&lzl9lE>ityҨdD~ZURѦx'8xlnOŵѩ
$Q95akiq'IŐďS]ivғFd^CգSpΧz8hˆ]D76i3`dP'c#ak@qz<+Ȇ&ˈEeС',D1`bhY.jrύƷ*ΤDB@kU@DoYGFNѨ_t])#crq_)jIBJ~˖Y7
0dRbZΝϱѷv~*_2Ȓa1ԲN/EuIa33IktҔk9Z6oMxR=y'ԙC,FfcN<A8CȸHq*gTEǫO>WB[Mjn);HV&]ϽFRV=%xFưӓ5Z@[9D=Rʞ!5o2z!dD
ROeqkDETѓBPppˋ(ιJP_ӗwbdHv.*=L4|ra,zzϚFnϾSԄɸj$7i#ʳXӦjzWX2Ȓ)zmAF;8wN&lԴǼ8|BO9$MShk$^p3=6OQWJ?OVV3;/p?O
ZXb8cxΣwp(0;mՕUC9hQGdrIKDu/ѠcKӎW`r65Y#3Њ,@y~é|Ã|o#E7QajjVL~#1J%q'fnf9(DeəiW/I,*Ɗa3g;>ժL[H07YOa&ѧh7Ed
n˪']c0(%/?d#jtΎYCϞwPmRPÊyuZoLjȱyB)~[lB!)b]0ƻpt88vgVid4/5~uc<)˲/85T]YS?ʎz6+Xx99Ϗ*rh[X<TQ]<0Km=Al'</ƣ`
dQwL<F&Y9=a7pE_ŎN.թd0Dp`a~]d9@2Yb2='=,2zD28_ǩg#,ǥ%,πDƙp+hOEȽҖ`;f79m/'z&x4=Uq3z,g,YՋϋrN8`Ӥ@#G[һ9WWL<Ë
*4'>0<$#^&+_^(DC@m˭i^Es.ơY,Ϻgѷʡ;j3S=UǕa8m<Te==?lRG]v#5#@8~QUMՉY0RHP1UƄUλ=K_kLKōIt0gѸeǫKԝb%6CiȮkCː5$[
?e'@ͱ]gvϰǓyB(ΤƬT͹&wRI?|MQ^]=5(hQŝOU&ԍJs&.%fb=qmta)yRq04*o,4(zĎlr%qx|Ac(H~gy:Q`lɤVzFX;.[Јa~]*bkƐvNCOO
hj9*'C8cA3a*|<q5Y#ǂ%e_,VCe*qƻÀ5b4oϡCt~>h#ӄZϹCQ!R_ekH(ERAÏ/xj9`sŉcφ(piq~(K7@R$<Ƞ[PYNE3QvJ@DF<ZSkHG8;*
B!fsz/R*CGHauUTP7?($XHѿy0Qƺ_g<5rriekLp9'6ip[/zdEg?TzϞT3ÝYe5@C^ԕRЅ]whTeȚm>4ʥmл/͸tʵ.*+:,˒/Rͷ@Myr=D^Mfʽ
)XuQ[v=tjE@C0y~TU2pNģZD,V]xD06mŎNqkqlkQ:=H!ZS$UQuHJt$'gt`?%:Qq^T(olTɥb6'Ϧ6BŠZR8ǏeF|MӤYӁB!9St`'%ҩRu<~
hA#|iƤʚIqRӓO^0Dӝ,҅ӓox(:)сó&DcŉIkFxE$D:sxY<+8D*E;U4A8eD#HJGxxK('ph*`vW0y[tEWG#*Z6#3xx<ɰT2`GɌbL8S:jȀȰi
2t;?b'ZT/A,|~jQ~hɭbC]d՞VK^>oWzf$xq`7bC!ěl:Qrru5>o$%HȾ^Xob>^=.͵OΜǭƁykp(Ҡ.Vz)<#>LH+Ҍ;S20'Ĭeͱ92tqW;?wzs
ayt$Ir7h#TԉÚoKyeÞmDʰpyGXx)KO+>J.@nNVy+QWÑB<V<M1jӸCC./u(0Kl`wSTYDacTō+L'yK$'ɘjy!4YMd"⟩

end SyntaxGraph.Text
